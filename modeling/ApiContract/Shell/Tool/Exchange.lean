/-
`tr`: octets exchanged for others, deleted, or cut to one where they repeat.
Both sets are written as octets, ranges, classes and repetitions; the second
is made as long as the first by its last octet, or by a repetition that has no
number.

Classes of letters in both sets that stand at the same place exchange the case
of letters.
-/
import ApiContract.Shell.Glob
import ApiContract.Shell.Tool.Basic

namespace ApiContract.Shell.Tool

/-- A part of a set. A repetition without a number has zero for it. -/
inductive SetPart where
  | one (c : Char)
  | range (first last : Char)
  | named (name : String)
  | alike (c : Char)
  | repeated (c : Char) (count : Nat)
  deriving DecidableEq

namespace SetPart

/-- All octets. -/
def octets : Stream := (List.range 256).map Char.ofNat

/-- The octets of a class, in order. -/
def classOctets (name : String) : Stream :=
  ((GlobPart.className? name).map octets.filter).getD []

/-- The octets of a part, in order. -/
def members : SetPart → Stream
  | one c | alike c => [c]
  | range a b => octets.filter fun c => a ≤ c && c ≤ b
  | named name => classOctets name
  | repeated c n => List.replicate n c

/-- How many octets a part has. -/
def size : SetPart → Nat
  | repeated _ n => n
  | p => p.members.length

/-- The part is a class that has a case. -/
def isCased : SetPart → Bool
  | named name => name = "lower" || name = "upper"
  | _ => false

/-- The part is a class. -/
def isClass : SetPart → Bool
  | named _ => true
  | _ => false

/-- The part repeats an octet as often as needed. -/
def isEndless : SetPart → Bool
  | repeated _ 0 => true
  | _ => false

end SetPart

/-- An octet of a set as it is written, and whether a backslash stood before
it. -/
abbrev Written := Char × Bool

namespace Written

/-- The octets of a text with escapes, and the warnings about them. -/
def read (s : Stream) : List Written × List Stream :=
  go s s.length
where
  /-- The octets, with a bound on their number. -/
  go (s : Stream) : Nat → List Written × List Stream
    | 0 => ([], [])
    | fuel + 1 =>
      let onward (w : Written) (warnings : List Stream) (rest : Stream) :
          List Written × List Stream :=
        let (ws, more) := go rest fuel
        (w :: ws, warnings ++ more)
      match s with
      | [] => ([], [])
      | ['\\'] =>
        onward ('\\', false) [("warning: an unescaped backslash at end of "
          ++ "string is not portable").toList] []
      | '\\' :: c :: rest =>
        if '0' ≤ c && c ≤ '7' then
          let ds := ((c :: rest).take 3).takeWhile fun d =>
            '0' ≤ d && d ≤ '7'
          let n := Arithmetic.valueOf 8 ds
          if n < 256 then
            onward (Char.ofNat n, true) [] ((c :: rest).drop ds.length)
          else
            onward (Char.ofNat (n / 8), true)
              [("warning: the ambiguous octal escape \\".toList ++ ds
                ++ " is being\n\tinterpreted as the 2-byte sequence \\0".toList
                ++ ds.take 2 ++ [',', ' '] ++ ds.drop 2)]
              ((c :: rest).drop 2)
        else onward (letter c, true) [] rest
      | c :: rest => onward (c, false) [] rest
  /-- The octet of a letter. -/
  letter (c : Char) : Char :=
    match c with
    | 'a' => '\x07'
    | 'b' => '\x08'
    | 'f' => '\x0c'
    | 'n' => '\n'
    | 'r' => '\r'
    | 't' => '\t'
    | 'v' => '\x0b'
    | c => c

/-- An octet in a message. -/
def shown (c : Char) : Stream :=
  if c = '\\' then ['\\', '\\'] else if isPrinting c then [c] else escaped c

/-- A text in a message. -/
def shownText (ws : List Written) : Stream := ws.flatMap fun w => shown w.1

/-- What stands before a sign and a closing bracket, and what follows
them. -/
def upTo? (sign : Char) : List Written →
    Option (List Written × List Written)
  | [] => none
  | w :: ws =>
    match ws with
    | (']', false) :: rest =>
      if w = (sign, false) then some ([], rest)
      else (upTo? sign ws).map fun r => (w :: r.1, r.2)
    | _ => (upTo? sign ws).map fun r => (w :: r.1, r.2)

/-- What follows reads as a star, digits and a closing bracket. -/
def isStarred : List Written → Bool
  | ('*', false) :: ws =>
    (ws.dropWhile (·.1.isDigit)).head? = some (']', false)
  | _ => false

/-- A repetition behind its bracket, and what follows it: an octet, a star and
perhaps a number. -/
def repetition? (ws : List Written) :
    Option (Except Stream (SetPart × List Written)) :=
  match ws with
  | (c, _) :: ('*', false) :: rest =>
    let count := rest.takeWhile fun w => !w.2 && w.1 ≠ ']'
    match rest.drop count.length with
    | (']', false) :: behind =>
      let ds := count.map (·.1)
      let base := if ds.head? = some '0' then 8 else 10
      let good := ds.all fun d =>
        (Arithmetic.digit? d).any (· < base) && d.isDigit
      if ds.isEmpty then some (.ok (.repeated c 0, behind))
      else if good && Arithmetic.valueOf base ds < Nat.pow 2 64 - 1 then
        some (.ok (.repeated c (Arithmetic.valueOf base ds), behind))
      else
        some (.error ("invalid repeat count ".toList
          ++ quoted (shownText count) ++ " in [c*n] construct".toList))
    | _ => none
  | _ => none

/-- A class or an octet with those alike behind its bracket and sign; none if
it is something else. -/
def named? (sign : Char) (ws : List Written) :
    Option (Except Stream (SetPart × List Written)) := do
  let (inside, rest) ← upTo? sign ws
  let name := inside.map (·.1)
  if sign = ':' then
    if name.isEmpty then
      return .error "missing character class name '[::]'".toList
    let name := String.ofList name
    if (GlobPart.className? name).isSome then
      return .ok (.named name, rest)
    else if isStarred ws then failure
    else
      return .error ("invalid character class ".toList
        ++ quoted (shownText inside))
  else
    match name with
    | [] => return .error "missing equivalence class character '[==]'".toList
    | [c] => return .ok (.alike c, rest)
    | _ =>
      if isStarred ws then failure
      else
        return .error (shownText inside
          ++ ": equivalence class operand must be a single character".toList)

/-- The parts of a set, or what is wrong with them. -/
def parts : Nat → List Written → Except Stream (List SetPart)
  | 0, _ => .ok []
  | fuel + 1, ws =>
    match ws with
    | a :: b :: c :: rest =>
      let special : Option (Except Stream (SetPart × List Written)) :=
        if a = ('[', false) then
          let inside := b :: c :: rest
          let named :=
            if b = (':', false) || b = ('=', false) then
              named? b.1 (c :: rest)
            else none
          named.or (repetition? inside)
        else none
      match special with
      | some (.error message) => .error message
      | some (.ok (part, rest)) => do return part :: (← parts fuel rest)
      | none =>
        if b = ('-', false) then
          if c.1 < a.1 then
            .error ("range-endpoints of '".toList ++ shown a.1 ++ ['-']
              ++ shown c.1
              ++ "' are in reverse collating sequence order".toList)
          else do return .range a.1 c.1 :: (← parts fuel rest)
        else do return .one a.1 :: (← parts fuel (b :: c :: rest))
    | ws => .ok (ws.map fun w => .one w.1)

end Written

-- ==================================================================== sets

/-- What `tr` is asked to do. -/
structure Exchange where
  complement : Bool
  delete : Bool
  squeeze : Bool
  truncate : Bool

namespace Exchange

/-- The octets of a set. -/
def members (set : List SetPart) : Stream := set.flatMap SetPart.members

/-- The octets that are not in a set. -/
def others (set : List SetPart) : Stream :=
  let s := members set
  SetPart.octets.filter (!s.contains ·)

/-- The octets that the first set means, in order. -/
def domain (x : Exchange) (first : List SetPart) : Stream :=
  if x.complement then others first else members first

/-- A set with its endless repetition made so long that the set has at least
`size` octets. -/
def stretched (size : Nat) (set : List SetPart) : List SetPart :=
  set.map fun
    | .repeated c 0 => .repeated c (size - (members set).length)
    | p => p

/-- The parts of two sets that stand side by side where the second has letters
of a case, as long as the first has them there too. What is left has none. -/
structure Aligned where
  pairs : List (Char × Char)
  first : Nat
  second : Nat

/-- Two sets side by side, octet by octet, where classes with a case in both
at one place count as one octet: the octets that are exchanged, and how many
there are on either side. None if a case in the second has none beside it. -/
def align : List SetPart → Stream → List SetPart → Stream → Nat →
    Option (List (Char × Char))
  | _, _, _, _, 0 => some []
  | ps, a :: as, qs, b :: bs, fuel + 1 =>
    (align ps as qs bs fuel).map ((a, b) :: ·)
  | p :: ps, [], q :: qs, [], fuel + 1 =>
    if q.isCased then
      if p.isCased then
        let change : List (Char × Char) :=
          match p, q with
          | .named "lower", .named "upper" =>
            (SetPart.classOctets "lower").map fun c => (c, c.toUpper)
          | .named "upper", .named "lower" =>
            (SetPart.classOctets "upper").map fun c => (c, c.toLower)
          | p, q => (p.members.zip q.members).take 1
        (align ps [] qs [] fuel).map (change ++ ·)
      else none
    else align ps p.members qs q.members fuel
  | ps, as, q :: qs, [], fuel + 1 =>
    match as, ps with
    | [], [] => if q.isCased then none else some []
    | as, ps => if q.isCased then none else align ps as qs q.members fuel
  | p :: ps, [], qs, bs, fuel + 1 => align ps p.members qs bs fuel
  | _, _, _, _, _ => some []

/-- How many octets a set has, where a class with a case in the second set
counts as one in both. -/
def countedSize (set : List SetPart) (cased : Nat) : Nat :=
  (members set).length - 25 * cased

/-- The octet by which the second set is made longer. -/
def lastOctet? : List SetPart → Option Char
  | [] => none
  | set =>
    match set.getLast? with
    | some (.named _) => none
    | some (.repeated c _) => some c
    | some p => p.members.getLast?
    | none => none

/-- The pairs of octets that are exchanged, or why the sets do not go
together. -/
def pairs (x : Exchange) (first second : List SetPart) :
    Except Stream (List (Char × Char)) := do
  let fail {α : Type} (s : String) : Except Stream α := .error s.toList
  if 1 < (second.filter SetPart.isEndless).length then
    fail "only one [c*] repeat construct may appear in string2"
  if second.any fun
      | .alike _ => true
      | _ => false then
    fail "[=c=] expressions may not appear in string2 when translating"
  if second.any fun p => p.isClass && !p.isCased then
    fail ("when translating, the only character classes that may appear in\n"
      ++ "string2 are 'upper' and 'lower'")
  let domain := x.domain first
  let second := stretched domain.length second
  let cased := (second.filter SetPart.isCased).length
  let fuel := 4 * (domain.length + (members second).length + first.length
    + second.length) + 8
  if !x.complement && cased ≠ 0 && (align first [] second [] fuel).isNone then
    fail "misaligned [:upper:] and/or [:lower:] construct"
  let discount := if x.complement then 0 else cased
  let size := domain.length - 25 * discount
  let second ←
    if size ≤ countedSize second discount || x.truncate then pure second
    else
      if second.isEmpty then
        fail "when not truncating set1, string2 must be non-empty"
      match lastOctet? second with
      | some c =>
        pure (second ++ [.repeated c (size - countedSize second discount)])
      | none =>
        fail ("when translating with string1 longer than string2,\n"
          ++ "the latter string must not end with a character class")
  if x.complement && first.any SetPart.isClass then
    let m := members second
    if m.length ≠ domain.length || m.any fun c => some c ≠ m.head? then
      fail ("when translating with complemented character classes,\n"
        ++ "string2 must map all characters in the domain to one")
  if x.complement then return domain.zip (members second)
  else
    return (align first [] second []
      (fuel + 4 * (size + 1))).getD []

/-- The set is fit to be the first one. -/
def checkFirst (first : List SetPart) : Except Stream Unit :=
  if first.any SetPart.isEndless then
    .error ("the [c*] repeat construct may not appear in string1").toList
  else .ok ()

/-- The second set is fit when nothing is exchanged. -/
def checkSecond (second : List SetPart) : Except Stream Unit :=
  if 1 < (second.filter SetPart.isEndless).length then
    .error "only one [c*] repeat construct may appear in string2".toList
  else if second.any SetPart.isEndless then
    .error ("the [c*] construct may appear in string2 only when "
      ++ "translating").toList
  else .ok ()

/-- A text in which each octet of a set that repeats is left once. -/
def squeezed (set : Stream) : Option Char → Stream → Stream
  | _, [] => []
  | before, c :: cs =>
    if before = some c && set.contains c then squeezed set before cs
    else c :: squeezed set (some c) cs

/-- What is done with a text, or why the sets do not go together. -/
def edit (x : Exchange) (first : List SetPart)
    (second : Option (List SetPart)) : Except Stream (Stream → Stream) := do
  checkFirst first
  let domain := x.domain first
  match second with
  | none =>
    if x.delete then return List.filter (!domain.contains ·)
    else return squeezed domain none
  | some second =>
    if x.delete then
      checkSecond second
      let kept := members second
      return fun s => squeezed kept none (s.filter (!domain.contains ·))
    else
      let pairs ← x.pairs first second
      let table := (SetPart.octets.map fun c =>
        ((pairs.reverse.lookup c).getD c)).toArray
      let change (s : Stream) : Stream :=
        s.map fun c => (table[c.toNat]?).getD c
      if x.squeeze then
        let set := members (stretched domain.length second)
        return fun s => squeezed set none (change s)
      else return change

/-- The options of `tr`. -/
def forms : List OptionForm :=
  [.both 'c' "complement", .short 'C', .both 'd' "delete",
    .both 's' "squeeze-repeats", .both 't' "truncate-set1"]

/-- What is wrong with the number of operands. -/
def operandFault? (x : Exchange) (operands : List Stream) :
    Option (Stream × Option String) :=
  let least := if x.delete = x.squeeze then 2 else 1
  let most := if x.delete && !x.squeeze then 1 else 2
  if operands.isEmpty then some ("missing operand".toList, none)
  else if operands.length < least then
    some ("missing operand after ".toList
        ++ quoted (operands.getLast?.getD []),
      some (if x.squeeze then
        "Two strings must be given when both deleting and squeezing repeats."
        else "Two strings must be given when translating."))
  else
    match operands.drop most with
    | [] => none
    | extra :: _ =>
      some ("extra operand ".toList ++ quoted extra,
        if operands.length = 2 then
          some ("Only one string may be given when deleting without "
            ++ "squeezing repeats.")
        else none)

end Exchange

/-- `tr`. -/
def tr : Tool := fun tool arguments => do
  let a := readArguments Exchange.forms true none arguments
  let x : Exchange :=
    ⟨a.has 'c' || a.has 'C', a.has 'd', a.has 's', a.has 't'⟩
  match a.fault, x.operandFault? a.operands with
  | some message, _ => refuse tool message
  | none, some (message, more) =>
    tell tool message
    if let some line := more then Action.say (line.toList ++ ['\n'])
    advise tool
    return 1
  | none, none =>
    let mut sets : List (List SetPart) := []
    for operand in a.operands do
      let (ws, warnings) := Written.read operand
      for warning in warnings do tell tool warning
      match Written.parts (ws.length + 1) ws with
      | .ok set => sets := sets ++ [set]
      | .error message =>
        tell tool message
        return 1
    match x.edit (sets.headD []) (sets.drop 1).head? with
    | .error message =>
      tell tool message
      return 1
    | .ok change =>
      match ← openOperand ['-'] with
      | .error fault =>
        tell tool ("read error: ".toList ++ fault.words.toList)
        return 1
      | .ok id =>
        match ← Action.drain id with
        | .error fault =>
          tell tool ("read error: ".toList ++ fault.words.toList)
          return 1
        | .ok text => finish tool (change text) 0

end ApiContract.Shell.Tool
