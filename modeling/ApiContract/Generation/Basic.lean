/-
Generating the module: the selected operations are assembled, rendered and
formatted, one after another, and the first step that fails is the error.
Nothing is written here but what a formatting command writes itself.
-/
import ApiContract.Generation.Formatter
import ApiContract.Generation.Module
import ApiContract.Operation.Selection
import ApiContract.Operation.Source
import ApiContract.OperationSet
import ApiContract.Settings.Basic

namespace ApiContract

/-- What a module is generated from. -/
structure GenerationContext where
  entries : List (Option Operation)
  assembly : AssemblyOptions := {}
  modules : RuntimeModules := {}
  selection : Selection := {}
  outputPath : String

/-- Why nothing is generated. -/
inductive GenerationError where
  | noOutputPath
  | noRuntimeModule
  | load (e : LoadError)
  | violation (v : Violation)
  | render (e : RenderError)
  | format (e : FormatError)
  deriving Repr

namespace GenerationError

/-- The reason in words. -/
def message : GenerationError → String
  | noOutputPath => "Validation error: Output path is required"
  | noRuntimeModule =>
    "Validation error: Runtime module paths cannot be empty"
  | load e => e.message
  | violation v => v.message
  | render e => "Render error: " ++ e.message
  | format e => "Formatting error: " ++ e.message

/-- What the reason itself rests on, in words. -/
def grounds : GenerationError → List String
  | load e => e.grounds
  | _ => []

end GenerationError

/-- A file that is to be written. -/
structure Artifact where
  path : String
  content : String
  deriving DecidableEq, Repr

/-- What was generated, and how much of it. -/
structure Generated where
  artifacts : List Artifact
  operations : Nat
  decoderBlocks : Nat
  deriving DecidableEq, Repr

namespace GenerationContext

/-- The paths of a context are there. -/
def check (c : GenerationContext) : Except GenerationError Unit :=
  if c.outputPath.isEmpty then .error .noOutputPath
  else if c.modules.ioTs.isEmpty || c.modules.requests.isEmpty then
    .error .noRuntimeModule
  else .ok ()

/-- The variables of the module. -/
def bindings (c : GenerationContext) (code : OperationSet) :
    List (String × Value) :=
  [("io_ts_module", .text c.modules.ioTs),
    ("requests_module", .text c.modules.requests),
    ("imports", .list (code.imports.map .text)),
    ("operations", .list (code.operations.map .text))]

/-- The module before it is formatted. -/
def draft (c : GenerationContext) (render : Renderer) :
    Logged GenerationError Generated := do
  Logged.lift c.check
  let entries ← c.selection.apply c.entries
  let code ← (OperationSet.ofEntries entries c.assembly).mapError .violation
  let content ← Logged.lift ((render (c.bindings code)).mapError .render)
  return ⟨[⟨c.outputPath, content⟩], code.operations.length,
    code.decoderBlocks⟩

/-- Formats artifacts one after another. -/
def formatAll (format : Formatter) : List Artifact →
    Access (Logged GenerationError (List Artifact))
  | [] => return .ok []
  | a :: rest => do
    let made := (← format a.content).mapError GenerationError.format
    match made.result with
    | .error e => return ⟨made.notices, .error e⟩
    | .ok content =>
      let others ← formatAll format rest
      return ⟨made.notices ++ others.notices,
        others.result.map ({ a with content } :: ·)⟩

/-- Generates the module: one artifact at the output path. -/
def generate (c : GenerationContext) (render : Renderer)
    (format : Formatter) : Access (Logged GenerationError Generated) := do
  let draft := c.draft render
  match draft.result with
  | .error e => return ⟨draft.notices, .error e⟩
  | .ok made =>
    let formatted ← formatAll format made.artifacts
    return ⟨draft.notices ++ formatted.notices,
      formatted.result.map ({ made with artifacts := · })⟩

end GenerationContext

end ApiContract
