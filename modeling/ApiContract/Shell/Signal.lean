/-
Signals by their numbers and names. The names of the first ones are fixed;
those for free use are told by how far they are from either end.
-/
import ApiContract.Shell.Stream

namespace ApiContract.Shell

/-- A signal by its number. Zero only asks whether a process is there. -/
abbrev Signal := Nat

namespace Signal

/-- How many signals there are, the one with number zero included. -/
def count : Nat := 65

/-- The names of the first signals; those without one have their number. -/
def fixedNames : List String :=
  ["0", "HUP", "INT", "QUIT", "ILL", "TRAP", "ABRT", "BUS", "FPE", "KILL",
    "USR1", "SEGV", "USR2", "PIPE", "ALRM", "TERM", "16", "CHLD", "CONT",
    "STOP", "TSTP", "TTIN", "TTOU", "URG", "XCPU", "XFSZ", "VTALRM", "PROF",
    "WINCH", "IO", "PWR", "SYS", "32", "33", "RTMIN"]

/-- The name of a signal. -/
def name (s : Signal) : String :=
  match fixedNames[s]? with
  | some name => name
  | none =>
    if s < 50 then "RTMIN+" ++ toString (s - 34)
    else if s < 64 then "RTMAX-" ++ toString (64 - s)
    else "RTMAX"

/-- A character in lower case. -/
def lower (s : Stream) : Stream := s.map Char.toLower

/-- The signal that a text names, by number or name; a name has a number of
at least `least`. -/
def read? (least : Nat) (s : Stream) : Option Signal :=
  match Stream.number? s with
  | some n => if n < count then some n else none
  | none =>
    ((List.range count).drop least).find? fun n =>
      lower (name n).toList = lower s

/-- A process that gets the signal goes on, though it has made no provision
for it. -/
def isHarmless (s : Signal) : Bool := [0, 17, 18, 23, 28].contains s

/-- No provision can be made for the signal. -/
def isUnstoppable (s : Signal) : Bool := s = 9 || s = 19

/-- The signal that ends a process as a matter of course. -/
def terminate : Signal := 15

end Signal

end ApiContract.Shell
