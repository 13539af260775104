/-
The commands of the shell itself by their names, and what the names of
commands stand for.

A special one counts before a function of its name; where it fails, the shell
ends, and what is assigned before it stays.
-/
import ApiContract.Shell.Builtin.Control
import ApiContract.Shell.Builtin.Variables
import ApiContract.Shell.Tool

namespace ApiContract.Shell.Builtin

/-- The special commands. -/
def specialNames : List String :=
  [".", ":", "break", "continue", "eval", "exec", "exit", "export",
    "readonly", "return", "set", "shift", "trap", "unset", "local"]

/-- The command of a name that does without running others. -/
def ofName? (name : Stream) : Option Builtin :=
  match String.ofList name with
  | ":" | "true" => some fun _ => return 0
  | "false" => some fun _ => return 1
  | "[" => some bracket
  | "break" => some (loopEnd .leave)
  | "cd" | "chdir" => some changeDirectory
  | "continue" => some (loopEnd .again)
  | "echo" => some echo
  | "exit" => some exit
  | "export" => some exportNames
  | "getopts" => some getopts
  | "kill" => some kill
  | "local" => some localNames
  | "printf" => some printf
  | "pwd" => some showDirectory
  | "read" => some read
  | "readonly" => some freezeNames
  | "return" => some back
  | "set" => some set
  | "shift" => some shift
  | "test" => some test
  | "trap" => some trap
  | "unset" => some unset
  | "wait" => some wait
  | _ => none

/-- The commands that run others. -/
def runningNames : List String := [".", "command", "eval", "exec", "type"]

/-- A special command. -/
def isSpecial (name : Stream) : Bool :=
  specialNames.contains (String.ofList name)

/-- A command of the shell itself. -/
def isBuiltin (name : Stream) : Bool :=
  (ofName? name).isSome || runningNames.contains (String.ofList name)

/-- A command whose arguments may be spelled as assignments. -/
def isDeclaring (name : Stream) : Bool :=
  ["export", "readonly", "local"].contains (String.ofList name)

/-- What a name stands for, in words or in short. -/
def describe (inWords : Bool) (name : Stream) : Action (Stream × Nat) := do
  let s ← get
  let said (words : String) : Stream × Nat :=
    if inWords then (name ++ ' ' :: words.toList ++ ['\n'], 0)
    else (name ++ ['\n'], 0)
  if keywords.contains (String.ofList name) then
    return said "is a shell keyword"
  else if isSpecial name then return said "is a special shell builtin"
  else if (s.functions.lookup name).isSome then
    return said "is a shell function"
  else if isBuiltin name then return said "is a shell builtin"
  else
    match ← Tool.find name with
    | .tool path _ =>
      if inWords then return (name ++ " is ".toList ++ path ++ ['\n'], 0)
      else return (path ++ ['\n'], 0)
    | _ =>
      if inWords then return (name ++ ": not found\n".toList, 127)
      else return ([], 127)

/-- `type`. -/
def type : Builtin := fun arguments => do
  let answers ← arguments.mapM (describe true)
  output (answers.flatMap (·.1))
    (answers.foldl (fun n a => Nat.lor n a.2) 0)

end ApiContract.Shell.Builtin
