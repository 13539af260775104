/-
Splitting an expanded word into fields. What is expanded is a row of chunks,
of which only some are split. A separator that is blank joins with the blanks
around it; any other one ends a field, even an empty one. The octet zero
separates what the parameters of a shell are.

A chunk that is split at zeros alone makes the last field count even when
there is nothing in it, and the chunk behind it no blanks join.
-/
import ApiContract.Shell.Glob

namespace ApiContract.Shell

/-- An octet of an expanded word, or the mark that quotes leave, which makes a
field even when nothing is quoted. -/
inductive Atom where
  | octet (c : Char) (quoted : Bool)
  | mark
  deriving DecidableEq

namespace Atom

/-- The octet, if there is one. -/
def char? : Atom → Option Char
  | octet c _ => some c
  | mark => none

/-- The octets of atoms. -/
def text (atoms : List Atom) : Stream := atoms.filterMap char?

/-- The octets of atoms with their quotes, as a pattern. -/
def pattern (atoms : List Atom) : List Marked :=
  atoms.filterMap fun
    | octet c quoted => some (c, quoted)
    | mark => none

/-- The atoms of a text. -/
def ofText (s : Stream) (quoted : Bool) : List Atom :=
  s.map (octet · quoted)

end Atom

/-- Atoms that are split or not. -/
inductive Chunk where
  | fixed (atoms : List Atom)
  | split (zerosOnly : Bool) (atoms : List Atom)

/-- The atoms of a chunk. -/
def Chunk.atoms : Chunk → List Atom
  | fixed as => as
  | split _ as => as

-- ============================================================== splitting

/-- How far splitting has come. `current` is the field under way, from its
end; `left` the number of fields that may still begin, if it is limited; with
none left, `kept` is how much of the field counts if only blanks follow. -/
structure Splitting where
  done : List (List Atom) := []
  current : List Atom := []
  blank : Bool := false
  zerosOnly : Bool := false
  afterZeros : Bool := false
  left : Option Nat := none
  kept : Option Nat := none

namespace Splitting

/-- A blank that separates fields where nothing else is said. -/
def isBlank (c : Char) : Bool := ['\x00', ' ', '\t', '\n'].contains c

/-- The octet separates fields. -/
def separates (s : Splitting) (separators : Stream) (c : Char) : Bool :=
  c = '\x00' || (!s.zerosOnly && separators.contains c)

/-- The atom is added to the field under way. -/
def push (s : Splitting) (a : Atom) : Splitting :=
  { s with current := a :: s.current }

/-- The field under way is over. -/
def close (s : Splitting) : Splitting :=
  { s with done := s.current.reverse :: s.done, current := [] }

/-- An octet when the last field is under way. -/
def takeLast (s : Splitting) (separates : Bool) (c : Char) (a : Atom) :
    Splitting :=
  if separates && isBlank c then
    { s with kept := s.kept.or (some s.current.length) }.push a
  else
    let kept := if separates && s.blank then s.kept else none
    { s with kept, blank := false }.push a

/-- An octet when no blank is under way. -/
def takePlain (s : Splitting) (separates : Bool) (c : Char) (a : Atom) :
    Splitting :=
  if !separates then { s with blank := false }.push a
  else
    let s :=
      if s.afterZeros || s.zerosOnly then s
      else { s with blank := isBlank c }
    if s.current.isEmpty && s.blank then { s with blank := false }
    else
      match s.left with
      | some 1 => { s with left := some 0, kept := some s.current.length }.push a
      | some n => { s.close with left := some (n - 1) }
      | none => s.close

/-- One atom of a chunk that is split. -/
def take (separators : Stream) (s : Splitting) (a : Atom) : Splitting :=
  match a with
  | .mark => s.push a
  | .octet c _ =>
    let separates := s.separates separators c
    if s.left = some 0 then s.takeLast separates c a
    else if s.blank then
      let s := { s with current := [] }
      if separates then
        if isBlank c then s else { s with blank := false }
      else { s with blank := false }.push a
    else s.takePlain separates c a

/-- One chunk. -/
def takeChunk (separators : Stream) (s : Splitting) : Chunk → Splitting
  | .fixed atoms => { s with current := atoms.reverse ++ s.current }
  | .split zerosOnly atoms =>
    atoms.foldl (take separators)
      { s with blank := false, afterZeros := s.zerosOnly, zerosOnly }

/-- The fields when all chunks are over. -/
def fields (s : Splitting) : List (List Atom) :=
  let last := s.current.reverse
  if s.zerosOnly then (last :: s.done).reverse
  else
    let last := (s.kept.map last.take).getD last
    if last.isEmpty then s.done.reverse else (last :: s.done).reverse

end Splitting

/-- The fields of chunks, perhaps no more than a number of them. -/
def fieldsOf (separators : Stream) (most : Option Nat) (chunks : List Chunk) :
    List (List Atom) :=
  (chunks.foldl (Splitting.takeChunk separators)
    ({ left := most } : Splitting)).fields

end ApiContract.Shell
