/-
Starting the shell in a directory. Neither the command nor the directory may
hold a NUL, and the directory has to be there.
-/
import ApiContract.Shell.Run

namespace ApiContract.Shell

/-- Why the shell is not started. -/
inductive StartFault where
  | nul
  | directory (fault : FileFault)
  deriving DecidableEq, Repr

/-- The fault with its number, its class and its words. -/
def StartFault.record : StartFault → String
  | nul =>
    FileFault.recordText "Error" none "InvalidInput"
      "nul byte found in provided data"
  | directory fault => fault.record

/-- The text holds a NUL. -/
def holdsNul (s : String) : Bool := s.toList.contains '\x00'

/-- Runs a command in a directory. -/
def startIn (directory commandLine input : String) :
    Access (Except StartFault Outcome) := do
  if holdsNul directory || holdsNul commandLine then return .error .nul
  else
    match ← Access.list directory .done with
    | .error fault => return .error (.directory fault)
    | .ok _ => return .ok (← run directory commandLine input)

/-- Runs a command where the program is. -/
def start (commandLine input : String) :
    Access (Except StartFault Outcome) := do
  if holdsNul commandLine then return .error .nul
  else return .ok (← run "" commandLine input)

end ApiContract.Shell
