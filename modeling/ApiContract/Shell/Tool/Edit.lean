/-
`sed`: the stream editor with its options. The parts of a script are read as
they are given, so a fault in one comes before a wrong option behind it, and
an option counts for the parts behind it only.
-/
import ApiContract.Shell.Editor.Reader
import ApiContract.Shell.Editor.Run

namespace ApiContract.Shell.Tool

open Editor (Setting)

/-- The options of `sed`. -/
def editForms : List OptionForm :=
  [.both 'b' "binary", .short 'E', .both 'r' "regexp-extended",
    .long 'd' "debug", .both 'i' "in-place" .optional,
    .both 'e' "expression" .required, .both 'f' "file" .required,
    .both 'l' "line-length" .required, .both 'z' "null-data",
    .long 'z' "zero-terminated", .both 'n' "quiet", .long 'p' "posix",
    .long 'n' "silent", .long 'g' "sandbox", .both 's' "separate",
    .both 'u' "unbuffered", .long 'F' "follow-symlinks"]

/-- A script under way with the setting so far; whether there is a part of it
yet. -/
structure Call where
  setting : Setting
  reading : Editor.Reading := {}
  isGiven : Bool := false

/-- A part of a script is read. -/
def Call.addPart (c : Call) (file : Option Stream) (text : Stream) :
    Action (Except Nat Call) := do
  match StateT.run (Editor.Reader.part file text) c.reading with
  | .ok (_, reading) => return .ok { c with reading, isGiven := true }
  | .error fault =>
    tell c.setting.tool fault.message
    return .error fault.status

/-- The number that a text begins with. -/
def leadingNumber (s : Stream) : Nat :=
  Arithmetic.valueOf 10 ((s.dropWhile Stream.isSpace).takeWhile Char.isDigit)

/-- One option. -/
def Call.takeOption (c : Call) (o : Char × Stream) :
    Action (Except Nat Call) := do
  let x := c.setting
  match o.1 with
  | 'e' => c.addPart none o.2
  | 'f' =>
    let opened ← openOperand o.2
    match opened with
    | .ok id =>
      let text ← Action.drain id
      c.addPart (some o.2) (text.toOption.getD [])
    | .error fault =>
      tell x.tool ("couldn't open file ".toList ++ o.2 ++ [':', ' ']
        ++ fault.words.toList)
      return .error 4
  | 'E' | 'r' =>
    return .ok { c with reading := { c.reading with extended := true } }
  | 'g' => return .ok { c with reading := { c.reading with guarded := true } }
  | 'i' => return .ok { c with setting := { x with page := some o.2 } }
  | 'l' =>
    return .ok { c with setting := { x with width := leadingNumber o.2 } }
  | 'n' => return .ok { c with setting := { x with quiet := true } }
  | 's' => return .ok { c with setting := { x with apart := true } }
  | 'u' => return .ok { c with setting := { x with exact := true } }
  | 'z' =>
    return .ok { c with
      setting := { x with zeros := true }
      reading := { c.reading with zeros := true } }
  | _ => return .ok c

/-- Options one after another. -/
def Call.takeOptions : List (Char × Stream) → Call →
    Action (Except Nat Call)
  | [], c => return .ok c
  | o :: os, c => do
    match ← c.takeOption o with
    | .ok c => takeOptions os c
    | .error status => return .error status

/-- How the editor is called, when it is called wrongly. -/
def editUsage (tool : Stream) : Action Nat := do
  Action.say ("Usage: ".toList ++ tool ++ (" [OPTION]... "
    ++ Text.braced "script-only-if-no-other-script"
    ++ " [input-file]...\n").toList)
  return 1

/-- A call whose options are taken: the script is complete and is run. -/
def Call.run (c : Call) (operands : List Stream) : Action Nat := do
  match StateT.run Editor.Reader.whole c.reading with
  | .error fault =>
    tell c.setting.tool fault.message
    return fault.status
  | .ok (script, _) =>
    let x := { c.setting with
      script, quiet := c.setting.quiet || script.quiet }
    if x.page.isSome && operands.isEmpty then
      tell x.tool "no input files".toList
      return 4
    else x.run (orInput operands)

/-- `sed`. -/
def edit : Tool := fun tool arguments => do
  let a := readArguments editForms false none arguments
  match ← Call.takeOptions a.options { setting := { tool, script := {} } } with
  | .error status => return status
  | .ok c =>
    match a.fault with
    | some message =>
      tell tool message
      editUsage tool
    | none =>
      if c.isGiven then c.run a.operands
      else
        match a.operands with
        | [] => editUsage tool
        | script :: operands =>
          match ← c.addPart none script with
          | .error status => return status
          | .ok c => c.run operands

end ApiContract.Shell.Tool
