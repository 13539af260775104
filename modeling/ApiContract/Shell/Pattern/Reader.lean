/-
Reading patterns in the basic and the extended spelling. They differ in which
signs need a backslash to be special: in the basic one braces, parentheses, a
bar, a plus and a question mark do, in the extended one these need it to stand
for themselves. Where a sign cannot have its sense (a star at the start, a
caret inside) it stands for itself in the basic spelling.
-/
import ApiContract.Shell.Glob
import ApiContract.Shell.Pattern
import ApiContract.Text.Chars

namespace ApiContract.Shell

/-- How a pattern is spelled and how it counts. -/
structure Spelling where
  extended : Bool := false
  anyCase : Bool := false
  lineWise : Bool := false
  zeros : Bool := false
  deriving DecidableEq

/-- A token of a pattern. -/
inductive PatternToken where
  | finish
  | one (c : Char)
  | loneBackslash
  | bar
  | opening
  | closing
  | openCount
  | closeCount
  | star
  | plus
  | question
  | bracket
  | period
  | again (group : Nat)
  | members (negated : Bool) (ranges : List (Char × Char))
  | check (c : Check)
  deriving DecidableEq

namespace Pattern

/-- The octets of words, and the blanks. -/
def wordRanges : List (Char × Char) :=
  [('0', '9'), ('A', 'Z'), ('_', '_'), ('a', 'z')]

def spaceRanges : List (Char × Char) := [('\t', '\r'), (' ', ' ')]

-- ================================================================= tokens

/-- The token of an octet behind a backslash. -/
def slashed (x : Spelling) (c : Char) : PatternToken :=
  let basic (t : PatternToken) : PatternToken :=
    if x.extended then .one c else t
  match c with
  | '|' => basic .bar
  | '(' => basic .opening
  | ')' => basic .closing
  | '+' => basic .plus
  | '?' => basic .question
  | '{' => basic .openCount
  | '}' => basic .closeCount
  | '<' => .check .wordStart
  | '>' => .check .wordEnd
  | 'b' => .check .wordEdge
  | 'B' => .check .wordInside
  | 'w' => .members false wordRanges
  | 'W' => .members true wordRanges
  | 's' => .members false spaceRanges
  | 'S' => .members true spaceRanges
  | '\x60' => .check .textStart
  | '\'' => .check .textEnd
  | c => if '1' ≤ c && c ≤ '9' then .again (c.toNat - 0x30) else .one c

/-- The token of an octet without a backslash, other than a caret and a dollar
sign. -/
def bare (x : Spelling) (c : Char) : PatternToken :=
  let extended (t : PatternToken) : PatternToken :=
    if x.extended then t else .one c
  match c with
  | '|' => extended .bar
  | '(' => extended .opening
  | ')' => extended .closing
  | '+' => extended .plus
  | '?' => extended .question
  | '{' => extended .openCount
  | '}' => extended .closeCount
  | '*' => .star
  | '[' => .bracket
  | '.' => .period
  | c => .one c

/-- The first token and what follows it. A caret is a check where a part may
begin, a dollar sign where one may end; in the extended spelling they always
are. -/
def token (x : Spelling) (caret : Bool) :
    Stream → PatternToken × Stream
  | [] => (.finish, [])
  | ['\\'] => (.loneBackslash, [])
  | '\\' :: c :: rest => (slashed x c, rest)
  | '^' :: rest =>
    (if caret || x.extended then .check .lineStart else .one '^', rest)
  | '$' :: rest =>
    let ends : Bool :=
      match rest with
      | [] => true
      | '\\' :: c :: _ => !x.extended && (c = ')' || c = '|')
      | _ => false
    (if ends || x.extended then .check .lineEnd else .one '$', rest)
  | c :: rest => (bare x c, rest)

-- =============================================================== brackets

/-- A member of a bracket before it is known whether a range begins with
it. -/
inductive Member where
  | single (c : Char)
  | many (ranges : List (Char × Char))

/-- A name between signs in a bracket, and what follows it. -/
def namedMember? (sign : Char) : Stream → Option (Stream × Stream)
  | c :: d :: rest =>
    if c = sign && d = ']' then some ([], rest)
    else (namedMember? sign (d :: rest)).map fun r => (c :: r.1, r.2)
  | _ => none

/-- The ranges of the octets that pass a test. -/
def rangesOf (f : Char → Bool) : List (Char × Char) :=
  (((List.range 256).map Char.ofNat).filter f).map fun c => (c, c)

/-- An octet as it is compared. -/
def folded (x : Spelling) (c : Char) : Char :=
  if x.anyCase then c.toUpper else c

/-- What is said of a bracket that does not end. -/
def unmatchedBracket : String := "Unmatched [, [^, [:, [., or [="

/-- One member of a bracket, and what follows it. -/
def readMember (x : Spelling) (hyphen : Bool) (cs : Stream) :
    Except String (Member × Stream) :=
  match cs with
  | [] => .error unmatchedBracket
  | '[' :: '.' :: rest =>
    match namedMember? '.' rest with
    | none => .error unmatchedBracket
    | some ([c], rest) => .ok (.single (folded x c), rest)
    | some _ => .error "Invalid collation character"
  | '[' :: '=' :: rest =>
    match namedMember? '=' rest with
    | none => .error unmatchedBracket
    | some ([c], rest) => .ok (.many [(folded x c, folded x c)], rest)
    | some _ => .error "Invalid collation character"
  | '[' :: ':' :: rest =>
    match namedMember? ':' rest with
    | none => .error unmatchedBracket
    | some (name, rest) =>
      let name := String.ofList name
      let name :=
        if x.anyCase && (name = "upper" || name = "lower") then "alpha"
        else name
      match GlobPart.className? name with
      | some f => .ok (.many (rangesOf fun c => f c || f (folded x c)), rest)
      | none => .error "Invalid character class name"
  | '-' :: rest =>
    if hyphen || rest.head? = some ']' then .ok (.single '-', rest)
    else .error "Invalid range end"
  | c :: rest => .ok (.single (folded x c), rest)

/-- The members of a bracket up to its end, and what follows it. A closing
bracket right at the start stands for itself. -/
def readMembers (x : Spelling) : Nat → Bool → Stream →
    Except String (List (Char × Char) × Stream)
  | 0, _, _ => .error unmatchedBracket
  | fuel + 1, first, cs =>
    match cs with
    | ']' :: rest =>
      if first then do readMore x fuel (.single ']') rest
      else .ok ([], rest)
    | cs => do
      let (member, rest) ← readMember x first cs
      readMore x fuel member rest
where
  /-- A member that is read, perhaps with the end of its range, and the
  further ones. -/
  readMore (x : Spelling) (fuel : Nat) (member : Member) (cs : Stream) :
      Except String (List (Char × Char) × Stream) := do
    let (ranges, rest) ← show Except String _ from
      match member, cs with
      | .many ranges, cs => .ok (ranges, cs)
      | .single a, '-' :: d :: rest =>
        if d = ']' then .ok ([(a, a)], '-' :: d :: rest)
        else
          match readMember x true (d :: rest) with
          | .error e => .error e
          | .ok (.many _, _) => .error "Invalid range end"
          | .ok (.single b, rest) =>
            if b < a then .error "Invalid range end"
            else .ok ([(a, b)], rest)
      | .single a, cs => .ok ([(a, a)], cs)
    let (more, rest) ← readMembers x fuel false rest
    return (ranges ++ more, rest)

/-- A bracket behind its sign, and what follows it. -/
def readBracket (x : Spelling) (cs : Stream) :
    Except String (Pattern × Stream) := do
  let (negated, cs) : Bool × Stream :=
    match cs with
    | '^' :: rest => (true, rest)
    | rest => (false, rest)
  if cs.isEmpty then throw "Invalid regular expression"
  let (ranges, rest) ← readMembers x (cs.length + 2) true cs
  let ranges :=
    if negated && x.lineWise then ('\n', '\n') :: ranges else ranges
  return (.oneOf negated ranges, rest)

-- ============================================================ repetitions

/-- How often a pattern may be repeated at most. -/
def mostTimes : Nat := 32767

/-- A number among the signs of a count, the token behind it, and what
follows. -/
def readCountNumber (x : Spelling) (cs : Stream) :
    Option (Option Nat) × PatternToken × Stream :=
  go cs none cs.length
where
  /-- The digits, behind those that are read; `none` inside when something
  else stands among them. -/
  go (cs : Stream) (n : Option (Option Nat)) :
      Nat → Option (Option Nat) × PatternToken × Stream
    | 0 => (some none, .finish, [])
    | fuel + 1 =>
      let (t, rest) := token x false cs
      match t with
      | .finish => (some none, t, rest)
      | .closeCount | .one ',' => (n, t, rest)
      | .one c =>
        let n : Option (Option Nat) :=
          if !c.isDigit then some none
          else
            let d := c.toNat - 0x30
            match n with
            | none => some (some d)
            | some none => some none
            | some (some m) => some (some (min (mostTimes + 1) (m * 10 + d)))
        go rest n fuel
      | _ => go rest (some none) fuel

/-- A count behind its brace: the least number, the greatest one if there is
one, and what follows. -/
def readCount (x : Spelling) (cs : Stream) :
    Except String (Nat × Option Nat × Stream) := do
  let invalid : String :=
    "Invalid content of \\" ++ Text.openBrace ++ "\\" ++ Text.closeBrace
  let wrong {α : Type} (t : PatternToken) : Except String α :=
    throw (if t = .finish then "Unmatched \\" ++ Text.openBrace else invalid)
  let checked (least : Nat) (most : Option Nat) (t : PatternToken)
      (rest : Stream) : Except String (Nat × Option Nat × Stream) :=
    if most.any (· < least) || t ≠ .closeCount then .error invalid
    else if mostTimes < most.getD least then
      .error "Regular expression too big"
    else .ok (least, most, rest)
  match readCountNumber x cs with
  | (some none, t, _) => wrong t
  | (none, .closeCount, _) => throw invalid
  | (n, .closeCount, rest) =>
    let n := (n.bind id).getD 0
    checked n (some n) .closeCount rest
  | (n, _, rest) =>
    let least := (n.bind id).getD 0
    match readCountNumber x rest with
    | (some none, t, _) => wrong t
    | (most, t, rest) => checked least (most.bind id) t rest

-- ============================================================= structure

/-- How far reading has come: the next token, what follows it, how many groups
have begun, and which ones may be asked for. -/
structure Progress where
  next : PatternToken
  rest : Stream
  groups : Nat := 0
  closed : List Nat := []

/-- Reading a part of a pattern. -/
abbrev PatternReader := StateT Progress (Except String)

/-- Goes on to the next token. -/
def advance (x : Spelling) (caret : Bool := false) : PatternReader Unit :=
  modify fun p =>
    let (next, rest) := token x caret p.rest
    { p with next, rest }

mutual

/-- Alternatives. -/
def readAlternatives (x : Spelling) (depth : Nat) : Nat → PatternReader Pattern
  | 0 => throw "Regular expression too big"
  | fuel + 1 => do
    let closed := (← get).closed
    let p ← readBranch x depth fuel
    readFurther x depth closed p fuel
termination_by structural n => n

/-- Further alternatives behind one. A group that another one closes may not
be asked for. -/
def readFurther (x : Spelling) (depth : Nat) (closed : List Nat) (p : Pattern) :
    Nat → PatternReader Pattern
  | 0 => return p
  | fuel + 1 => do
    if (← get).next ≠ .bar then return p
    advance x true
    let t := (← get).next
    if t = .bar || t = .finish || (depth ≠ 0 && t = .closing) then
      readFurther x depth closed (.either p .empty) fuel
    else
      let before := (← get).closed
      modify fun s => { s with closed }
      let q ← readBranch x depth fuel
      modify fun s => { s with closed := s.closed ++ before }
      readFurther x depth closed (.either p q) fuel
termination_by structural n => n

/-- Parts one after another. -/
def readBranch (x : Spelling) (depth : Nat) : Nat → PatternReader Pattern
  | 0 => throw "Regular expression too big"
  | fuel + 1 => do
    let p ← readPart x depth fuel
    let t := (← get).next
    if t = .bar || t = .finish || (depth ≠ 0 && t = .closing) then return p
    else
      let q ← readBranch x depth fuel
      return .both p q
termination_by structural n => n

/-- One part with the repetitions behind it. A check has none. -/
def readPart (x : Spelling) (depth : Nat) : Nat → PatternReader Pattern
  | 0 => throw "Regular expression too big"
  | fuel + 1 => do
    let t := (← get).next
    let literal (c : Char) : PatternReader Pattern := do
      advance x
      readRepeats x (.one (folded x c)) fuel
    let refused : PatternReader Pattern :=
      throw "Invalid preceding regular expression"
    match t with
    | .one c => literal c
    | .opening => do
      let p ← readGroup x depth fuel
      readRepeats x p fuel
    | .bracket => do
      let s ← get
      let (p, rest) ← readBracket x s.rest
      set { s with rest }
      advance x
      readRepeats x p fuel
    | .again n => do
      if !(← get).closed.contains n then throw "Invalid back reference"
      advance x
      readRepeats x (.again n) fuel
    | .openCount => refused
    | .star => if x.extended then refused else literal '*'
    | .plus => if x.extended then refused else literal '+'
    | .question => if x.extended then refused else literal '?'
    | .closing => throw "Unmatched ) or \\)"
    | .closeCount => literal '}'
    | .check c => do
      advance x true
      return .check c
    | .period => do
      advance x
      let ranges := if x.lineWise then [('\n', '\n')] else []
      readRepeats x (.oneOf true ranges) fuel
    | .members negated ranges => do
      advance x
      readRepeats x (.oneOf negated ranges) fuel
    | .bar | .finish => return .empty
    | .loneBackslash => throw "Trailing backslash"
termination_by structural n => n

/-- A group, up to behind its closing sign. -/
def readGroup (x : Spelling) (depth : Nat) : Nat → PatternReader Pattern
  | 0 => throw "Regular expression too big"
  | fuel + 1 => do
    let n := (← get).groups + 1
    modify fun s => { s with groups := n }
    advance x true
    let p ←
      if (← get).next = .closing then pure .empty
      else readAlternatives x (depth + 1) fuel
    if (← get).next ≠ .closing then throw "Unmatched ( or \\("
    modify fun s => { s with closed := n :: s.closed }
    advance x
    return .group n p
termination_by structural n => n

/-- The repetitions behind a part. The basic spelling has no star and no count
behind another repetition. -/
def readRepeats (x : Spelling) (p : Pattern) : Nat → PatternReader Pattern
  | 0 => return p
  | fuel + 1 => do
    let repeated (q : Pattern) : PatternReader Pattern := do
      let t := (← get).next
      if !x.extended && (t = .star || t = .openCount) then
        throw "Invalid preceding regular expression"
      readRepeats x q fuel
    match (← get).next with
    | .star => do
      advance x
      repeated (.repeated p)
    | .plus => do
      advance x
      repeated (.counted p 1 none)
    | .question => do
      advance x
      repeated (.perhaps p)
    | .openCount => do
      let s ← get
      let (least, most, rest) ← readCount x s.rest
      set { s with rest }
      advance x
      repeated (.counted p least most)
    | _ => return p
termination_by structural n => n

end

/-- The pattern that a text spells, made ready, or what is wrong with it. -/
def read (x : Spelling) (cs : Stream) : Except String Matcher := do
  let (next, rest) := token x true cs
  let (p, s) ← StateT.run
    (readAlternatives x 0 (4 * cs.length + 16)) { next, rest }
  let lineEnd : Char := if x.zeros then '\x00' else '\n'
  return .ofPattern p s.groups x.anyCase
    (if x.lineWise then some lineEnd else none)

end Pattern

end ApiContract.Shell
