/-
Requests to generate a module into a directory. A request is checked, its
operations are loaded, the module is generated, and only then is anything
written: first the directory, then the module in it.
-/
import ApiContract.Generation.Output
import ApiContract.Settings.Document

namespace ApiContract

/-- A request. The output file is named relative to the output directory. -/
structure Request where
  source : String
  outputDirectory : String
  outputFile : String
  settings : Settings := {}
  deriving DecidableEq, Repr

/-- What is wrong with a request. -/
inductive RequestError where
  | noSource
  | noOutputFile
  | absoluteOutputFile (path : String)
  | emptySetting (name : String)
  deriving DecidableEq, Repr

/-- What is wrong, in words. -/
def RequestError.message : RequestError → String
  | noSource => "Missing required field: operations source"
  | noOutputFile => "Missing required field: output file"
  | absoluteOutputFile path =>
    "Invalid output file: " ++ path
      ++ " must be relative to the output directory"
  | emptySetting name =>
    "Invalid configuration: " ++ name ++ " cannot be empty"

/-- Why a request is not carried out. -/
inductive RunError where
  | request (e : RequestError)
  | generation (e : GenerationError)
  | output (e : OutputError)
  deriving Repr

namespace RunError

/-- The reason in words. -/
def message : RunError → String
  | request e => "Validation error: " ++ e.message
  | generation e => "Generation error: " ++ e.message
  | output e => "Output error: " ++ e.message

/-- What the reason itself rests on, in words. -/
def grounds : RunError → List String
  | request e => [e.message]
  | generation e => e.message :: e.grounds
  | output _ => []

end RunError

/-- What a request that was carried out has led to. -/
structure Completion where
  operations : Nat
  decoderBlocks : Nat
  outputPath : String
  deriving DecidableEq, Repr

namespace Request

/-- The request can be carried out: it names its source and its output file,
the latter relative, and no runtime module is blank. -/
def check (r : Request) : Except RequestError Unit :=
  if Text.isAllBlank r.source then .error .noSource
  else if r.outputFile.isEmpty then .error .noOutputFile
  else if Path.isAbsolute r.outputFile then
    .error (.absoluteOutputFile r.outputFile)
  else if Text.isAllBlank r.settings.modules.ioTs then
    .error (.emptySetting "io_ts_module")
  else if Text.isAllBlank r.settings.modules.requests then
    .error (.emptySetting "requests_module")
  else .ok ()

/-- What the module of a request is generated from. -/
def context (r : Request) (entries : List (Option Operation)) :
    GenerationContext where
  entries := entries
  assembly := r.settings.assembly
  modules := r.settings.modules
  selection := r.settings.selection
  outputPath := r.outputFile

/-- Writes what was generated into the output directory. -/
def write (r : Request) (made : Generated) :
    Access (Except OutputError Unit) := do
  match ← Output.ensureDirectory r.outputDirectory with
  | .error e => return .error e
  | .ok () =>
    Output.writeArtifacts (made.artifacts.map fun a =>
      { a with path := Path.join r.outputDirectory a.path })

/-- What a request leads to once its operations are loaded. -/
def generate (r : Request) (render : Renderer) (format : Formatter)
    (entries : List (Option Operation)) :
    Access (Logged RunError Generated) := do
  return (← (r.context entries).generate render format).mapError .generation

/-- Carries a request out. Nothing is written before the module is there. -/
def execute (r : Request) (render : Renderer) (format : Formatter) :
    Access (Logged RunError Completion) := do
  match r.check with
  | .error e => return .fail (.request e)
  | .ok () =>
    match ← Operations.load r.source with
    | .error e => return .fail (.generation (.load e))
    | .ok entries =>
      let made ← r.generate render format entries
      match made.result with
      | .error e => return ⟨made.notices, .error e⟩
      | .ok generated =>
        let written ← r.write generated
        return ⟨made.notices, (written.mapError .output).map fun _ =>
          ⟨generated.operations, generated.decoderBlocks,
            Path.join r.outputDirectory r.outputFile⟩⟩

end Request

end ApiContract
