/-
Patterns of the shell: `*`, `?` and brackets among octets that stand for
themselves. In a bracket a range goes by the numbers of its octets, and a
named class stands for its octets. A bracket that is not closed is no
bracket, and a backslash that was not quoted takes the sense from what
follows.
-/
import ApiContract.Shell.Stream

namespace ApiContract.Shell

/-- An octet of a word, and whether it was quoted. -/
abbrev Marked := Char × Bool

/-- What a bracket holds: ranges and classes. -/
abbrev Members := List (Char → Bool)

/-- A part of a pattern. -/
inductive GlobPart where
  | one (c : Char)
  | any
  | run
  | oneOf (negated : Bool) (members : Members)

namespace GlobPart

/-- The octets of a named class. -/
def className? (name : String) : Option (Char → Bool) :=
  match name with
  | "lower" => some Char.isLower
  | "upper" => some Char.isUpper
  | "alpha" => some Char.isAlpha
  | "digit" => some Char.isDigit
  | "alnum" => some Char.isAlphanum
  | "xdigit" => some fun c =>
    c.isDigit || ('a' ≤ c && c ≤ 'f') || ('A' ≤ c && c ≤ 'F')
  | "blank" => some fun c => c = ' ' || c = '\t'
  | "space" => some Stream.isSpace
  | "punct" => some fun c => '!' ≤ c && c ≤ '~' && !c.isAlphanum
  | "cntrl" => some fun c => c < ' ' || c = '\x7f'
  | "print" => some fun c => ' ' ≤ c && c ≤ '~'
  | "graph" => some fun c => '!' ≤ c && c ≤ '~'
  | _ => none

/-- The members of a bracket up to its end. One right at the start stands for
itself. -/
def readMembers : Nat → Bool → List Marked →
    Option (Members × List Marked)
  | 0, _, _ => none
  | fuel + 1, first, cs =>
    match cs with
    | [] => none
    | (c, quoted) :: rest =>
      if c = ']' && !quoted && !first then some ([], rest)
      else
        let named : Option ((Char → Bool) × List Marked) :=
          match c, quoted, rest with
          | '[', false, (':', _) :: inside => do
            let name := inside.takeWhile (·.1 ≠ ':')
            match inside.drop name.length with
            | (':', _) :: (']', _) :: rest =>
              let f ← className? (String.ofList (name.map (·.1)))
              return (f, rest)
            | _ => failure
          | _, _, _ => none
        match named with
        | some (f, rest) => do
          let (fs, rest) ← readMembers fuel false rest
          return (f :: fs, rest)
        | none =>
          match rest with
          | ('-', false) :: (d, dq) :: rest' =>
            if d = ']' && !dq then do
              let (fs, rest) ← readMembers fuel false rest
              return ((· == c) :: fs, rest)
            else do
              let (fs, rest) ← readMembers fuel false rest'
              return ((fun x => c ≤ x && x ≤ d) :: fs, rest)
          | rest => do
            let (fs, rest) ← readMembers fuel false rest
            return ((· == c) :: fs, rest)

/-- Octets behind a backslash count as quoted, and the backslash is gone. -/
def unslash : List Marked → List Marked
  | ('\\', false) :: (c, _) :: rest => (c, true) :: unslash rest
  | m :: rest => m :: unslash rest
  | [] => []

/-- The parts of a pattern. -/
def readAll : Nat → List Marked → List GlobPart
  | 0, _ => []
  | fuel + 1, cs =>
    match cs with
    | [] => []
    | ('*', false) :: rest => .run :: readAll fuel rest
    | ('?', false) :: rest => .any :: readAll fuel rest
    | ('[', false) :: rest =>
      let (negated, inside) : Bool × List Marked :=
        match rest with
        | ('!', false) :: inside | ('^', false) :: inside => (true, inside)
        | inside => (false, inside)
      match readMembers (inside.length + 1) true inside with
      | some (members, rest) => .oneOf negated members :: readAll fuel rest
      | none => .one '[' :: readAll fuel rest
    | (c, _) :: rest => .one c :: readAll fuel rest

/-- The parts of a pattern as it is written. -/
def read (pattern : List Marked) : List GlobPart :=
  readAll (pattern.length + 1) (unslash pattern)

/-- The part takes the place of one octet, this one. -/
def takes (c : Char) : GlobPart → Bool
  | one d => c = d
  | any => true
  | run => false
  | oneOf negated members => members.any (· c) != negated

/-- The places in a text that a pattern may have reached, after one more
octet: each is told by the parts that are left. -/
def step (c : Char) : List GlobPart → List (List GlobPart)
  | [] => []
  | .run :: ps => (.run :: ps) :: step c ps
  | p :: ps => if p.takes c then [ps] else []

/-- The parts that are left allow the text to end. -/
def mayEnd : List GlobPart → Bool
  | [] => true
  | .run :: ps => mayEnd ps
  | _ => false

/-- States without repetitions; a state is told by how much of the pattern is
left. -/
def distinct : List (List GlobPart) → List (List GlobPart)
  | [] => []
  | s :: ss => s :: (distinct ss).filter (·.length ≠ s.length)

/-- A text matches from one of some states on. -/
def matchesFrom (states : List (List GlobPart)) : Stream → Bool
  | [] => states.any mayEnd
  | c :: cs => matchesFrom (distinct (states.flatMap (step c))) cs

end GlobPart

/-- A text as a whole matches a pattern. -/
def globMatches (pattern : List Marked) (s : Stream) : Bool :=
  GlobPart.matchesFrom [GlobPart.read pattern] s

/-- The pattern has a part that stands for more than itself. -/
def isGlob (pattern : List Marked) : Bool :=
  (GlobPart.read pattern).any fun
    | .one _ => false
    | _ => true

/-- The lengths of the beginnings of a text that match a pattern, from the
shortest on. -/
def matchingStarts (pattern : List Marked) (s : Stream) : List Nat :=
  (List.range (s.length + 1)).filter fun n => globMatches pattern (s.take n)

/-- A text without the part that a pattern cuts off: at its start or end, the
shortest or the longest one. -/
def cutGlob (atEnd longest : Bool) (pattern : List Marked) (s : Stream) :
    Stream :=
  if atEnd then
    let starts := (List.range (s.length + 1)).filter fun n =>
      globMatches pattern (s.drop n)
    match if longest then starts.head? else starts.getLast? with
    | some n => s.take n
    | none => s
  else
    let starts := matchingStarts pattern s
    match if longest then starts.getLast? else starts.head? with
    | some n => s.drop n
    | none => s

end ApiContract.Shell
