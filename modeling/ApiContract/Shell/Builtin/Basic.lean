/-
Commands that the shell performs itself, without another program: their
options, which stand before all else, their output, and the simplest of them.
-/
import ApiContract.Shell.Printing
import ApiContract.Shell.State

namespace ApiContract.Shell

/-- A command of the shell itself: from its arguments to its status. -/
abbrev Builtin := List Stream → Action Nat

namespace Builtin

-- ================================================================ options

/-- The options of one argument, and perhaps one that waits for its value. -/
def letters (forms : List (Char × Bool)) :
    Stream → Action (List (Char × Stream) × Option Char)
  | [] => return ([], none)
  | c :: cs => do
    match forms.lookup c with
    | none => Action.fail ("Illegal option -".toList ++ [c])
    | some false =>
      let (os, waiting) ← letters forms cs
      return ((c, []) :: os, waiting)
    | some true =>
      if cs.isEmpty then return ([], some c) else return ([(c, cs)], none)

/-- The options before the operands, where one may wait for its value. -/
def options (forms : List (Char × Bool)) :
    Option Char → List Stream → Action (List (Char × Stream) × List Stream)
  | some c, [] => Action.fail ("No arg for -".toList ++ c :: " option".toList)
  | some c, value :: rest => do
    let (os, rest) ← options forms none rest
    return ((c, value) :: os, rest)
  | none, ('-' :: c :: cs) :: rest => do
    if c = '-' && cs.isEmpty then return ([], rest)
    else
      let (os, waiting) ← letters forms (c :: cs)
      let (more, rest) ← options forms waiting rest
      return (os ++ more, rest)
  | none, rest => return ([], rest)

/-- The operands of a command that has no options. -/
def operands (arguments : List Stream) : Action (List Stream) := do
  return (← options [] none arguments).2

-- ================================================================= output

/-- The output of a command, and its status unless that fails. -/
def output (text : Stream) (status : Nat := 0) : Action Nat := do
  match ← Action.emit 1 text with
  | .ok () => return status
  | .error _ =>
    let name := ((← get).speaker).getD []
    Action.complain (name ++ ": I/O error".toList)
    return Nat.lor status 1

/-- `echo`. -/
def echo : Builtin := fun arguments => output (printWords arguments)

/-- `printf`. What is wrong is told before anything is shown. -/
def printf : Builtin := fun arguments => do
  match ← operands arguments with
  | [] => Action.fail "usage: printf format [arg ...]".toList
  | format :: words =>
    let p := printFormat format words
    for complaint in p.complaints.reverse do Action.complain complaint
    match p.fault with
    | some message =>
      Action.complain message
      let _ ← Action.emit 1 p.text
      Action.conclude 2
      throw .failed
    | none => output p.text (if p.complaints.isEmpty then 0 else 1)

-- ================================================================ quoting

/-- A value between quotes, as it can be read back: single ones, and double
ones around single ones. -/
def quotedValue (s : Stream) : Stream :=
  go s (s.length + 1)
where
  /-- The value, with a bound on its length. -/
  go (s : Stream) : Nat → Stream
    | 0 => []
    | fuel + 1 =>
      let plain := s.takeWhile (· ≠ '\'')
      let rest := s.drop plain.length
      let quotes := rest.takeWhile (· = '\'')
      let text := '\'' :: (plain ++ ['\''])
      if quotes.isEmpty then text
      else
        let behind := rest.drop quotes.length
        text ++ '"' :: (quotes ++ '"' :: if behind.isEmpty then []
          else go behind fuel)

end Builtin

end ApiContract.Shell
