/-
Operations from a file. The end of the file's name says whether it holds JSON
or YAML; under any other name JSON is tried first. What exactly is wrong with
a text that is not well formed is not told.
-/
import ApiContract.Document.Json.Reader
import ApiContract.Document.Yaml.Reader
import ApiContract.Files.Access
import ApiContract.Operation.Document

namespace ApiContract

/-- The format of a document. -/
inductive DocumentFormat where
  | json
  | yaml
  | jsonElseYaml
  deriving DecidableEq, Repr

namespace DocumentFormat

/-- The format that a file name announces. -/
def ofName (name : String) : DocumentFormat :=
  if name.endsWith ".json" then json
  else if name.endsWith ".yaml" || name.endsWith ".yml" then yaml
  else jsonElseYaml

/-- The value of a text, if it is well formed. -/
def read? (s : String) : DocumentFormat → Option Value
  | json => Json.read? s
  | yaml => Yaml.read? s
  | jsonElseYaml => (Json.read? s).or (Yaml.read? s)

end DocumentFormat

/-- Why operations cannot be loaded. -/
inductive LoadError where
  | file (fault : FileFault)
  | malformed (format : DocumentFormat)
  | document (e : DocumentError)
  deriving Repr

namespace LoadError

/-- The reason in words. -/
def message : LoadError → String
  | file fault => "IO error: " ++ fault.message
  | malformed .json => "Serialization error: ..."
  | malformed .yaml => "Operation loading error: Failed to parse YAML: ..."
  | malformed .jsonElseYaml =>
    "Operation loading error: Failed to parse operations file: ..."
  | document e => "Operation loading error: " ++ e.message

/-- What the reason itself rests on, in words. -/
def grounds : LoadError → List String
  | file fault => [fault.message]
  | malformed .json => ["..."]
  | _ => []

end LoadError

namespace Operations

/-- The entries in a text of a format. -/
def ofText (format : DocumentFormat) (s : String) :
    Except LoadError (List (Option Operation)) :=
  match format.read? s with
  | none => .error (.malformed format)
  | some v => (ofValue v).mapError .document

/-- The entries in a file. -/
def load (source : String) :
    Access (Except LoadError (List (Option Operation))) := do
  match ← Access.readText source with
  | .error fault => return .error (.file fault)
  | .ok s => return ofText (.ofName source) s

end Operations

end ApiContract
