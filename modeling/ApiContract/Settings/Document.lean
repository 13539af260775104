/-
Settings in files. Every setting has its default, so a file states only what
differs; keys that name no setting are passed over. Of several values of the
wrong type the first in the file is the error.

`toTable` writes settings as entries; what is not set has none.
-/
import ApiContract.Document.Toml.Reader
import ApiContract.Files.Access
import ApiContract.Settings.Basic

namespace ApiContract

/-- Why settings cannot be read. -/
inductive SettingsError where
  | file (path : String) (fault : FileFault)
  | malformed
  | mismatch (m : Mismatch)
  deriving DecidableEq, Repr

namespace SettingsError

/-- The reason in words. What exactly is wrong with a text that is not well
formed is not told. -/
def message : SettingsError → String
  | file path fault =>
    "Failed to read config file " ++ path ++ ": " ++ fault.message
  | malformed => "Invalid config: ..."
  | mismatch m => "Invalid config: " ++ m.message

/-- What the reason itself rests on, in words. -/
def grounds : SettingsError → List String
  | file _ fault => [fault.message]
  | malformed => ["..."]
  | mismatch m => [m.message]

end SettingsError

namespace Toml

/-- A truth value. -/
def readBool : Value → Except Mismatch Bool
  | .bool b => .ok b
  | v => .error (.wrongType v.found "a boolean")

/-- A text, named in the error by what it is to be. -/
def readText (wanted : String) : Value → Except Mismatch String
  | .text s => .ok s
  | v => .error (.wrongType v.found wanted)

/-- Texts in order; the first item that is none is the error. -/
def readTextItems : List Value → Except Mismatch (List String)
  | [] => .ok []
  | v :: vs => do
    let s ← readText "a string" v
    let rest ← readTextItems vs
    return s :: rest

/-- A list of texts. -/
def readTexts : Value → Except Mismatch (List String)
  | .array items => readTextItems items
  | v => .error (.wrongType v.found "a sequence")

end Toml

namespace Settings

open Toml (readBool readText readTexts)

/-- Settings with the entry of a key taken over. -/
def set (s : Settings) (key : String) (v : Toml.Value) :
    Except Mismatch Settings :=
  match key with
  | "generate_decoders" =>
    (readBool v).map fun b => { s with generateDecoders := b }
  | "io_ts_module" =>
    (readText "a string" v).map fun m =>
      { s with modules := { s.modules with ioTs := m } }
  | "requests_module" =>
    (readText "a string" v).map fun m =>
      { s with modules := { s.modules with requests := m } }
  | "definitions_path" =>
    (readText "a string" v).map fun p => { s with definitionsPath := p }
  | "template" =>
    (readText "path string" v).map fun p => { s with templateFile := some p }
  | "format_command" =>
    (readText "a string" v).map fun c => { s with formatCommand := some c }
  | "include_operations" =>
    (readTexts v).map fun ids =>
      { s with selection := { s.selection with included := ids } }
  | "exclude_operations" =>
    (readTexts v).map fun ids =>
      { s with selection := { s.selection with excluded := ids } }
  | _ => .ok s

/-- Settings with the entries of a table taken over, one after another. -/
def setAll (s : Settings) : Toml.Table → Except Mismatch Settings
  | [] => .ok s
  | (key, v) :: rest => do (← s.set key v).setAll rest

/-- The settings that a table states; all else has its default. -/
def ofTable (t : Toml.Table) : Except Mismatch Settings :=
  Settings.setAll {} t

/-- The settings that a text states. -/
def ofText (text : String) : Except SettingsError Settings :=
  match Toml.read? text with
  | none => .error .malformed
  | some t => (ofTable t).mapError .mismatch

/-- The settings in a file. -/
def load (path : String) : Access (Except SettingsError Settings) := do
  match ← Access.readText path with
  | .error fault => return .error (.file path fault)
  | .ok text => return ofText text

/-- Settings as entries. -/
def toTable (s : Settings) : Toml.Table :=
  [("generate_decoders", .bool s.generateDecoders),
    ("io_ts_module", .text s.modules.ioTs),
    ("requests_module", .text s.modules.requests),
    ("definitions_path", .text s.definitionsPath)]
  ++ (s.templateFile.map fun p => ("template", Toml.Value.text p)).toList
  ++ (s.formatCommand.map fun c =>
      ("format_command", Toml.Value.text c)).toList
  ++ [("include_operations", .array (s.selection.included.map .text)),
    ("exclude_operations", .array (s.selection.excluded.map .text))]

end Settings

end ApiContract
