/-
The program: its arguments are read, its accesses performed on the disk, and
what it prints is printed.
-/
import ApiContract.CommandLine.Run

namespace ApiContract.CommandLine

/-- The operating system's number for an error. -/
def numberOf? : IO.Error → Option Nat
  | .noFileOrDirectory _ code _ | .alreadyExists _ code _
  | .inappropriateType _ code _ | .invalidArgument _ code _ =>
    some code.toInt32.toInt.natAbs
  | _ => none

/-- The fault behind an error of the operating system. -/
def faultOf (e : IO.Error) : FileFault :=
  ((numberOf? e).bind FileFault.ofNumber?).getD (.other (toString e))

/-- The result of an action, or the fault that ended it. -/
def attempt {α : Type} (action : IO α) : IO (Except FileFault α) := do
  match ← action.toBaseIO with
  | .ok a => return .ok a
  | .error e => return .error (faultOf e)

/-- Performs a computation on the disk. -/
def perform {α : Type} : Access α → IO α
  | .done a => pure a
  | .read path next => do
    let content ← attempt (IO.FS.readBinFile path)
    perform (next (content.map ByteArray.toList))
  | .isDirectory path next => do
    let there ← attempt do (← IO.FS.realPath path).isDir
    perform (next (there.toOption.getD false))
  | .makeDirectory path next => do
    perform (next (← attempt (IO.FS.createDir path)))
  | .create path content next => do
    let bytes := ByteArray.mk content.toArray
    perform (next (← attempt (IO.FS.writeBinFile path bytes)))
  | .list path next => do
    let names ← attempt do
      return (← (← IO.FS.realPath path).readDir).toList.map (·.fileName)
    perform (next names)

end ApiContract.CommandLine

open ApiContract in
/-- Runs the program with the arguments it is called with. -/
def main (arguments : List String) : IO UInt32 := do
  let outcome ← CommandLine.perform (CommandLine.run arguments)
  IO.print outcome.output
  IO.eprint outcome.errors
  return outcome.exitCode.toUInt32
