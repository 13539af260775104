/-
Scripts of the stream editor: commands, each for the lines that its addresses
select, and what they do with the line in hand, the one on hold and the
output. Blocks and jumps are numbers of commands.
-/
import ApiContract.Shell.Pattern

namespace ApiContract.Shell.Editor

/-- What tells a line: its number, a first number and a step, that it is the
last one, or a pattern. Without a pattern the one used last counts. -/
inductive Address where
  | line (n : Nat)
  | step (first step : Nat)
  | last
  | like (m : Option Matcher)

/-- Where a range of lines ends: at a line, so many lines further on, or at a
line whose number is a multiple of another. -/
inductive RangeEnd where
  | address (a : Address)
  | further (n : Nat)
  | multiple (n : Nat)

/-- The lines a command is for. -/
structure Selection where
  first : Option Address := none
  last : Option RangeEnd := none
  inverted : Bool := false

/-- How the case of letters is changed: of all that follows, and of the first
one. -/
inductive CaseChange where
  | keep
  | upper
  | lower
  deriving DecidableEq

/-- A piece of a replacement: a text and a group behind it, and how the case
of both is changed. -/
structure Piece where
  text : Stream
  group : Option Nat
  all : CaseChange
  first : CaseChange

/-- A file that is written to: the output, the stream for errors, or one by its
path. -/
inductive Sheet where
  | output
  | errors
  | path (name : Stream)
  deriving DecidableEq

/-- A substitution: what is replaced by what, from which match on and whether
further ones too, and what is done with the line then. -/
structure Substitution where
  pattern : Option Matcher
  replacement : List Piece
  number : Nat
  all : Bool
  print : Bool
  write : Option Sheet

/-- What a command does. -/
inductive Edit where
  | nothing
  | block (behind : Nat)
  | append (text : Stream)
  | insert (text : Stream)
  | change (text : Stream)
  | delete
  | deleteFirst
  | print
  | printFirst
  | printNumber
  | printName
  | list (width : Option Nat)
  | hold
  | holdMore
  | fetch
  | fetchMore
  | exchange
  | empty
  | next
  | nextMore
  | quit (silently : Bool) (status : Nat)
  | readFile (name : Stream)
  | readLine (name : Stream)
  | write (sheet : Sheet)
  | writeFirst (sheet : Sheet)
  | map (table : List (Char × Char))
  | substitute (s : Substitution)
  | jump (label : Stream) (target : Nat)
  | jumpIf (label : Stream) (target : Nat)
  | jumpUnless (label : Stream) (target : Nat)

/-- A command. -/
structure Instruction where
  selection : Selection
  edit : Edit

/-- A script, whether it says itself that lines are only shown when a command
does so, and what is said when it asks for the last pattern and there is
none. -/
structure Script where
  commands : Array Instruction := #[]
  quiet : Bool := false
  missing : Stream := []

/-- The label that a command jumps to. -/
def Edit.label? : Edit → Option Stream
  | jump l _ | jumpIf l _ | jumpUnless l _ => some l
  | _ => none

/-- A jump that leads to a command. -/
def Edit.leading (e : Edit) (target : Nat) : Edit :=
  match e with
  | jump l _ => jump l target
  | jumpIf l _ => jumpIf l target
  | jumpUnless l _ => jumpUnless l target
  | e => e

end ApiContract.Shell.Editor
