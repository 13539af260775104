/-
Why access to a file fails, with the words and numbers of the operating
system where it gives them.
-/
import ApiContract.Text.Chars

namespace ApiContract

/-- A failed access. -/
inductive FileFault where
  | notFound
  | exists
  | notADirectory
  | isADirectory
  | nameTooLong
  | nulInName
  | notText
  | other (text : String)
  deriving DecidableEq, Repr

namespace FileFault

/-- The operating system's number for a fault, and its words. -/
def system? : FileFault → Option (Nat × String)
  | notFound => some (2, "No such file or directory")
  | .exists => some (17, "File exists")
  | notADirectory => some (20, "Not a directory")
  | isADirectory => some (21, "Is a directory")
  | nameTooLong => some (36, "File name too long")
  | _ => none

/-- The fault of a number. -/
def ofNumber? (number : Nat) : Option FileFault :=
  [notFound, .exists, notADirectory, isADirectory, nameTooLong].find?
    fun f => f.system?.any (·.1 = number)

/-- A fault in words. -/
def message (f : FileFault) : String :=
  match f.system? with
  | some (code, text) => text ++ " (os error " ++ toString code ++ ")"
  | none =>
    match f with
    | nulInName => "file name contained an unexpected NUL byte"
    | notText => "stream did not contain valid UTF-8"
    | other text => text
    | _ => ""

/-- A fault in the words of the operating system alone. -/
def words (f : FileFault) : String :=
  match f.system? with
  | some (_, text) => text
  | none => f.message

/-- The operating system's class of a fault. -/
def className : FileFault → String
  | notFound => "NotFound"
  | .exists => "AlreadyExists"
  | notADirectory => "NotADirectory"
  | isADirectory => "IsADirectory"
  | nameTooLong => "InvalidFilename"
  | _ => "Other"

/-- A record of a class of faults with its words, and the number if there is
one. -/
def recordText (name : String) (code : Option Nat) (kind words : String) :
    String :=
  let number := (code.map fun n => "code: " ++ toString n ++ ", ").getD ""
  name ++ " " ++ Text.braced (" " ++ number ++ "kind: " ++ kind
    ++ ", message: \"" ++ words ++ "\" ")

/-- A fault with its number, its class and its words. -/
def record (f : FileFault) : String :=
  match f.system? with
  | some (code, words) => recordText "Os" (some code) f.className words
  | none => recordText "Error" none f.className f.message

end FileFault

end ApiContract
