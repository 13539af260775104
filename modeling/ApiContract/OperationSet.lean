/-
The code of a list of operations: the code of each present one in order, and
one import line per type that any of them refers to. One operation that
breaks a rule fails the whole list.
-/
import ApiContract.Text.Utf8
import ApiContract.Operation.Code

namespace ApiContract

-- ============================================================= imports

/-- Strictly before in the order of the octets of UTF-8. -/
def octetsBefore (a b : String) : Bool :=
  decide (Text.Utf8.write a < Text.Utf8.write b)

/-- Puts a name into an ascending list; one that is there already stays. -/
def insertName (name : String) : List String → List String
  | [] => [name]
  | n :: ns =>
    if octetsBefore name n then name :: n :: ns
    else if octetsBefore n name then n :: insertName name ns
    else n :: ns

/-- The distinct names, ascending. -/
def sortedNames (names : List String) : List String :=
  names.foldl (fun ns name => insertName name ns) []

/-- A path without slashes at its end. -/
def dropFinalSlashes (path : String) : String :=
  String.ofList (path.toList.reverse.dropWhile (· == '/')).reverse

/-- The line that imports a type from its own module. -/
def importLine (definitionsPath typeName : String) : String :=
  "import " ++ Text.braced (" " ++ typeName ++ " ") ++ " from \""
    ++ dropFinalSlashes definitionsPath ++ "/" ++ typeName ++ "\";"

/-- The types that the operations refer to: distinct, ascending. -/
def importedTypes (ops : List Operation) : List String :=
  sortedNames (ops.flatMap Operation.importedTypes)

-- ================================================================= set

/-- What is written for an operation set. -/
structure AssemblyOptions where
  decoders : Bool := true
  definitionsPath : String := "."
  deriving DecidableEq, Repr

/-- The code of an operation set. -/
structure OperationSet where
  imports : List String
  operations : List String
  decoderBlocks : Nat
  deriving DecidableEq, Repr

namespace OperationSet

/-- Import lines and operations, a blank line between the two parts when both
are there. -/
def text (s : OperationSet) : String :=
  let imports := "\n".intercalate s.imports
  let operations := "\n\n".intercalate s.operations
  if imports.isEmpty then operations
  else if operations.isEmpty then imports
  else imports ++ "\n\n" ++ operations

/-- The code of each operation in turn. -/
def codes (decoders : Bool) : List Operation → Logged Violation (List String)
  | [] => .ok []
  | op :: ops => do
    let code ← op.code decoders
    let rest ← codes decoders ops
    return code :: rest

/-- The code of the present entries of a list. -/
def ofEntries (entries : List (Option Operation)) (options : AssemblyOptions) :
    Logged Violation OperationSet := do
  let present := entries.filterMap id
  let operations ← codes options.decoders present
  return {
    imports := (importedTypes present).map (importLine options.definitionsPath)
    operations := operations
    decoderBlocks :=
      if options.decoders then present.countP (·.success?.isSome) else 0 }

end OperationSet

end ApiContract
