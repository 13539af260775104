/-
Patterns of texts, as stream editors use them. Of all matches the leftmost
counts and of those the longest; where the longest one can be had in several
ways, the groups are what the first of them makes, repetitions being tried
again before they are left.

A pattern is turned into instructions, and a text is read octet by octet with
all places in the instructions that may have been reached, in the order of
their precedence. Where no group is asked for again, two ways to one place
have the same future, and only the first is followed.
-/
import ApiContract.Shell.Stream

namespace ApiContract.Shell

/-- What is required of a place in a text. -/
inductive Check where
  | lineStart
  | lineEnd
  | textStart
  | textEnd
  | wordStart
  | wordEnd
  | wordEdge
  | wordInside
  deriving DecidableEq, Repr

/-- A pattern. -/
inductive Pattern where
  | empty
  | oneOf (negated : Bool) (ranges : List (Char × Char))
  | both (p q : Pattern)
  | either (p q : Pattern)
  | repeated (p : Pattern)
  | group (number : Nat) (p : Pattern)
  | again (number : Nat)
  | check (c : Check)
  deriving DecidableEq, Repr

namespace Pattern

/-- One octet. -/
def one (c : Char) : Pattern := .oneOf false [(c, c)]

/-- A pattern perhaps, or nothing. -/
def perhaps (p : Pattern) : Pattern := .either p .empty

/-- A pattern so many times. -/
def times (p : Pattern) : Nat → Pattern
  | 0 => .empty
  | 1 => p
  | n + 2 => .both (times p (n + 1)) p

/-- A pattern up to so many times. -/
def upTo (p : Pattern) : Nat → Pattern
  | 0 => .empty
  | 1 => perhaps p
  | n + 2 => perhaps (.both (upTo p (n + 1)) p)

/-- A pattern at least so many times, and perhaps no more than so many. -/
def counted (p : Pattern) (least : Nat) : Option Nat → Pattern
  | none =>
    if least = 0 then .repeated p else .both (times p least) (.repeated p)
  | some most =>
    if least = 0 then upTo p most
    else if most = least then times p least
    else .both (times p least) (upTo p (most - least))

/-- The pattern asks for what a group has matched. -/
def asksAgain : Pattern → Bool
  | both p q | either p q => p.asksAgain || q.asksAgain
  | repeated p | group _ p => p.asksAgain
  | again _ => true
  | _ => false

end Pattern

-- =========================================================== instructions

/-- What is done at a place of the instructions. -/
inductive Instruction where
  | take (negated : Bool) (ranges : List (Char × Char))
  | fork (first second : Nat)
  | enter (group : Nat)
  | leave (group : Nat)
  | again (group : Nat)
  | check (c : Check)
  | accept

/-- The instructions of a pattern that begin at a place. -/
def Pattern.instructions : Pattern → Nat → List Instruction
  | .empty, _ => []
  | .oneOf negated ranges, _ => [.take negated ranges]
  | .both p q, at' =>
    let a := p.instructions at'
    a ++ q.instructions (at' + a.length)
  | .either p q, at' =>
    let a := p.instructions (at' + 1)
    let other := at' + a.length + 2
    let b := q.instructions other
    let behind := other + b.length
    .fork (at' + 1) other :: (a ++ .fork behind behind :: b)
  | .repeated p, at' =>
    let a := p.instructions (at' + 1)
    .fork (at' + 1) (at' + a.length + 2) :: (a ++ [.fork at' at'])
  | .group n p, at' =>
    .enter n :: (p.instructions (at' + 1) ++ [.leave n])
  | .again n, _ => [.again n]
  | .check c, _ => [.check c]

/-- A pattern made ready: its instructions, how many groups it has, whether
only the way to a place tells its future, how the case counts, and the octet
that ends a line if lines count. -/
structure Matcher where
  code : Array Instruction
  groups : Nat
  isPlain : Bool
  anyCase : Bool
  lineEnd : Option Char

/-- A pattern made ready. -/
def Matcher.ofPattern (p : Pattern) (groups : Nat) (anyCase : Bool)
    (lineEnd : Option Char) :
    Matcher where
  code := (p.instructions 0 ++ [Instruction.accept]).toArray
  groups := groups
  isPlain := !p.asksAgain
  anyCase := anyCase
  lineEnd := lineEnd

-- =============================================================== matching

/-- Where groups begin and end. The whole match is group zero. -/
abbrev Spans := List (Nat × Nat × Nat)

/-- A group begins or ends somewhere else. -/
def Spans.put (s : Spans) (group first last : Nat) : Spans :=
  (group, first, last) :: s.filter (·.1 ≠ group)

/-- A way through the instructions: the place that is reached, what is still
to come of a group that is matched again, where the match and the groups under
way begin, and the groups. -/
structure Way where
  place : Nat
  owed : Stream := []
  start : Nat
  opened : List (Nat × Nat) := []
  spans : Spans := []
  deriving DecidableEq

/-- A place in a text: the octets before it (from the last one), their number,
and those that follow. -/
structure Spot where
  before : Stream
  position : Nat
  rest : Stream

namespace Spot

/-- The start of a text. -/
def atStart (text : Stream) : Spot := ⟨[], 0, text⟩

/-- The place `n` octets further on. -/
def advance (s : Spot) (n : Nat) : Spot :=
  ⟨(s.rest.take n).reverse ++ s.before, s.position + n, s.rest.drop n⟩

/-- An octet of words. -/
def isWord (c : Option Char) : Bool := c.any Stream.isNameChar

/-- The octets of a group, which ends before this place. -/
def between (s : Spot) (first last : Nat) : Stream :=
  ((s.before.drop (s.position - last)).take (last - first)).reverse

/-- A check holds here. -/
def holds (s : Spot) (lineEnd : Option Char) (c : Check) : Bool :=
  let last := s.before.head?
  let next := s.rest.head?
  match c with
  | .textStart => last.isNone
  | .textEnd => next.isNone
  | .lineStart => last.isNone || (lineEnd.isSome && last = lineEnd)
  | .lineEnd => next.isNone || (lineEnd.isSome && next = lineEnd)
  | .wordStart => !isWord last && isWord next
  | .wordEnd => isWord last && !isWord next
  | .wordEdge => isWord last != isWord next
  | .wordInside => isWord last == isWord next

end Spot

namespace Matcher

/-- The octet as it is compared. -/
def fold (m : Matcher) (c : Char) : Char :=
  if m.anyCase then c.toUpper else c

/-- An octet lies in a set of ranges. -/
def takes (m : Matcher) (negated : Bool) (ranges : List (Char × Char))
    (c : Char) : Bool :=
  let c := m.fold c
  (ranges.any fun r => r.1 ≤ c && c ≤ r.2) != negated

/-- The ways that were seen at a spot. -/
structure Seen where
  places : Array Bool
  ways : List Way

/-- The way is a new one. -/
def isNew (m : Matcher) (seen : Seen) (w : Way) : Bool :=
  if m.isPlain then !((seen.places[w.place]?).getD true)
  else !seen.ways.contains w

/-- The way was seen. -/
def note (m : Matcher) (seen : Seen) (w : Way) : Seen :=
  if m.isPlain then
    { seen with places := seen.places.setIfInBounds w.place true }
  else { seen with ways := w :: seen.ways }

/-- Follows ways as far as they lead without an octet: those that wait for
one, the last first, and the first one that is a match. -/
def follow (m : Matcher) (s : Spot) : Nat → List Way → Seen → List Way →
    Option Way → List Way × Option Way
  | 0, _, _, waiting, found => (waiting, found)
  | _ + 1, [], _, waiting, found => (waiting, found)
  | fuel + 1, w :: ws, seen, waiting, found =>
    if !m.isNew seen w then m.follow s fuel ws seen waiting found
    else
      let seen := m.note seen w
      let next : Way := { w with place := w.place + 1 }
      match m.code[w.place]? with
      | none => m.follow s fuel ws seen waiting found
      | some (.take ..) => m.follow s fuel ws seen (w :: waiting) found
      | some (.fork a b) =>
        m.follow s fuel
          ({ w with place := a } :: { w with place := b } :: ws) seen waiting
          found
      | some (.enter n) =>
        let opened := (n, s.position) :: w.opened.filter (·.1 ≠ n)
        m.follow s fuel ({ next with opened } :: ws) seen waiting found
      | some (.leave n) =>
        let first := (w.opened.lookup n).getD 0
        let next := { next with
          opened := w.opened.filter (·.1 ≠ n)
          spans := w.spans.put n first s.position }
        m.follow s fuel (next :: ws) seen waiting found
      | some (.check c) =>
        m.follow s fuel (if s.holds m.lineEnd c then next :: ws else ws) seen
          waiting found
      | some (.again n) =>
        if !w.owed.isEmpty then m.follow s fuel ws seen (w :: waiting) found
        else
          match w.spans.lookup n with
          | none => m.follow s fuel ws seen waiting found
          | some (first, last) =>
            match s.between first last with
            | [] => m.follow s fuel (next :: ws) seen waiting found
            | owed =>
              m.follow s fuel ws seen ({ w with owed } :: waiting) found
      | some .accept =>
        let whole := { w with spans := w.spans.put 0 w.start s.position }
        m.follow s fuel ws seen waiting (found.or (some whole))

/-- The way behind an octet, if it takes this one. -/
def step? (m : Matcher) (c : Char) (w : Way) : Option Way :=
  match m.code[w.place]?, w.owed with
  | some (.take negated ranges), _ =>
    if m.takes negated ranges c then some { w with place := w.place + 1 }
    else none
  | some (.again _), d :: owed =>
    if m.fold c = m.fold d then
      some { w with
        owed, place := if owed.isEmpty then w.place + 1 else w.place }
    else none
  | _, _ => none

/-- Reads on with the ways that are followed, and a new one at each spot until
there is a match. A match is better than one that begins later, and than a
shorter one that begins there too. -/
def readOn (m : Matcher) (before : Stream) (position : Nat) :
    Stream → List Way → Option Way → Option Way
  | rest, ways, found =>
    let s : Spot := ⟨before, position, rest⟩
    let fresh : List Way :=
      if found.isNone then [{ place := 0, start := position }] else []
    let all := ways ++ fresh
    let fuel := if m.isPlain then 3 * m.code.size + all.length + 1
      else 100000
    let none' : Seen := ⟨Array.replicate m.code.size false, []⟩
    let (waiting, new) := m.follow s fuel all none' [] none
    let found := new.filter (fun w => found.all (w.start ≤ ·.start))
      |>.or found
    let ways := waiting.reverse.filter fun w =>
      found.all (w.start ≤ ·.start)
    match rest with
    | [] => found
    | c :: rest =>
      if ways.isEmpty && found.isSome then found
      else
        m.readOn (c :: before) (position + 1) rest
          (ways.filterMap (m.step? c)) found

/-- The groups of the first match from a spot on. -/
def search? (m : Matcher) (s : Spot) : Option Spans :=
  (m.readOn s.before s.position s.rest [] none).map (·.spans)

end Matcher

end ApiContract.Shell
