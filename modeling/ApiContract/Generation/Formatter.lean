/-
Formatting generated code: by a shell command that the code is piped through,
or not at all. A command that fails is reported by a notice with all it wrote
to its error stream; the error keeps that text without the blanks around it.
-/
import ApiContract.Notice
import ApiContract.Shell.Start
import ApiContract.Text.Chars

namespace ApiContract

/-- What went wrong with a formatter command. -/
inductive FormatError where
  | notStarted (command : String) (fault : Shell.StartFault)
  | failed (command : String) (exitCode : Int) (errors : String)
  deriving DecidableEq, Repr

/-- The failure in words. -/
def FormatError.message : FormatError → String
  | notStarted command fault =>
    "Failed to execute command '" ++ command ++ "': " ++ fault.record
  | failed command exitCode errors =>
    "'" ++ command ++ "' exited with code " ++ toString exitCode ++ ": "
      ++ Text.trim errors

/-- What formatting makes of code. A command may use files. -/
abbrev Formatter := String → Access (Logged FormatError String)

namespace Formatter

/-- Code as it is. -/
def none : Formatter := fun code => .done (.ok code)

/-- What is made of the outcome of a command. -/
def conclude (c : String) (o : Shell.Outcome) : Logged FormatError String :=
  if o.isSuccess then .ok o.output
  else do
    Logged.say (.formatterFailed c o.exitCode o.errors)
    Logged.fail (.failed c o.exitCode o.errors)

/-- What a command makes of the code that is piped through it. -/
def command (c : String) : Formatter := fun code => do
  match ← Shell.start c code with
  | .error fault => return .fail (.notStarted c fault)
  | .ok outcome => return conclude c outcome

/-- The formatter of the settings; a blank command is none. -/
def ofCommand : Option String → Formatter
  | some c => if Text.isAllBlank c then none else command c
  | Option.none => none

end Formatter

end ApiContract
