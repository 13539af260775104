/-
What a process comes to: how it has ended, and what it wrote to its two
streams, read as text with U+FFFD for each broken part.
-/
import ApiContract.Text.Utf8

namespace ApiContract.Shell

/-- How a process ends: of itself with a code, or by a signal. -/
inductive Ending where
  | exited (code : Nat)
  | killed
  deriving DecidableEq, Repr

/-- The exit code, -1 for a process that was killed. -/
def Ending.code : Ending → Int
  | exited code => code
  | killed => -1

/-- What a command line comes to. -/
structure Outcome where
  exitCode : Int
  output : String
  errors : String
  deriving DecidableEq, Repr

namespace Outcome

/-- The command line succeeded. -/
def isSuccess (o : Outcome) : Bool := o.exitCode == 0

/-- The outcome of a process that has ended and wrote these octets. -/
def of (ending : Ending) (output errors : Bytes) : Outcome :=
  ⟨ending.code, Text.Utf8.readLenient output, Text.Utf8.readLenient errors⟩

end Outcome

end ApiContract.Shell
