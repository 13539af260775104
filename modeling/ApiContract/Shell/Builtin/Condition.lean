/-
`test` and `[`: conditions on texts, numbers and files, joined by `-a` and
`-o`, of which the first binds more strongly.

A word is read as an operator where it can be one. A word of one letter
behind a sign is none when it is the last one, or when an operator with two
sides follows it, so that every text can be compared.
-/
import ApiContract.Shell.Arithmetic
import ApiContract.Shell.Builtin.Basic

namespace ApiContract.Shell.Builtin

/-- What a word of a condition is. -/
inductive ConditionWord where
  | finish
  | operand
  | unary (letter : Char)
  | binary
  | negation
  | both
  | either
  | opening
  | closing
  deriving DecidableEq

namespace ConditionWord

/-- The letters of operators with one side. -/
def unaryLetters : Stream := "rwxefdcbpugkstznhOGLS".toList

/-- The operators with two sides. -/
def binaryNames : List String :=
  ["=", "!=", "<", ">", "-eq", "-ne", "-ge", "-gt", "-le", "-lt", "-nt",
    "-ot", "-ef"]

/-- The operator that a word may be. -/
def operator? (w : Stream) : Option ConditionWord :=
  match String.ofList w with
  | "!" => some negation
  | "-a" => some both
  | "-o" => some either
  | "(" => some opening
  | ")" => some closing
  | name =>
    if binaryNames.contains name then some binary
    else
      match w with
      | ['-', c] => if unaryLetters.contains c then some (unary c) else none
      | _ => none

/-- What the first word is, with those behind it. -/
def ofWords : List Stream → ConditionWord
  | [] => finish
  | w :: rest =>
    match operator? w, rest with
    | some (unary _), [] => operand
    | some (unary c), [_] => unary c
    | some (unary c), next :: _ =>
      if operator? next = some binary then operand else unary c
    | some opening, [] => operand
    | some o, _ => o
    | none, _ => operand

end ConditionWord

namespace Condition

/-- The whole number that a word spells. -/
def numberOf (w : Stream) : Action Int := do
  let inside := w.dropWhile Stream.isSpace
  let (negative, ds) : Bool × Stream :=
    match inside with
    | '-' :: ds => (true, ds)
    | '+' :: ds => (false, ds)
    | ds => (false, ds)
  let digits := ds.takeWhile Char.isDigit
  let n := Arithmetic.valueOf 10 digits
  let i : Int := if negative then -n else n
  if digits.isEmpty || !(ds.drop digits.length).all Stream.isSpace
    || i ≠ Arithmetic.clamp i then
    Action.fail ("Illegal number: ".toList ++ w)
  else return i

/-- A condition with a mistake, told with the word where it is. -/
def mistake {α : Type} (w : Stream) (message : String) : Action α :=
  Action.fail
    ((if w.isEmpty then [] else w ++ [':', ' ']) ++ message.toList)

/-- What is at a path. -/
def entry (name : Stream) : Action (Option (Option Bytes)) := do
  if name = "/dev/null".toList then return some (some [])
  let path ← Action.resolve name
  if ← Action.access (.isDirectory path .done) then return some none
  match ← Action.access (.read path .done) with
  | .ok content => return some (some content)
  | .error _ => return none

/-- An operator with one side. -/
def holds (letter : Char) (w : Stream) : Action Bool := do
  match letter with
  | 'z' => return w.isEmpty
  | 'n' => return !w.isEmpty
  | 't' =>
    let _ ← numberOf w
    return false
  | _ =>
    let found ← entry w
    let device := w = "/dev/null".toList
    match letter with
    | 'e' | 'r' | 'w' | 'O' | 'G' => return found.isSome
    | 'd' | 'x' => return found = some none
    | 'f' => return found.any (·.isSome) && !device
    | 's' => return found.any fun content => content.all fun c => !c.isEmpty
    | 'c' => return device
    | _ => return false

/-- An operator with two sides. -/
def compares (operator a b : Stream) : Action Bool := do
  let numbers (f : Int → Int → Bool) : Action Bool := do
    let x ← numberOf a
    return f x (← numberOf b)
  match String.ofList operator with
  | "=" => return a = b
  | "!=" => return a ≠ b
  | "<" => return a < b
  | ">" => return b < a
  | "-eq" => numbers (· == ·)
  | "-ne" => numbers (· != ·)
  | "-ge" => numbers fun x y => decide (y ≤ x)
  | "-gt" => numbers fun x y => decide (y < x)
  | "-le" => numbers fun x y => decide (x ≤ y)
  | "-lt" => numbers fun x y => decide (x < y)
  | "-ef" =>
    let x ← Action.resolve a
    return x = (← Action.resolve b) && (← entry a).isSome
  | _ => return false

/-- The words from the last one that was used on. -/
abbrev Rest := List Stream

mutual

/-- Conditions of which one has to hold. -/
def alternatives (t : ConditionWord) (ws : Rest) (found : Bool) :
    Nat → Action (Bool × Rest)
  | 0 => return (found, ws)
  | fuel + 1 => do
    let (b, ws) ← conjunction t ws true fuel
    if ConditionWord.ofWords (ws.drop 1) = .either then
      let ws := ws.drop 2
      alternatives (.ofWords ws) ws (found || b) fuel
    else return (found || b, ws)

/-- Conditions that all have to hold. -/
def conjunction (t : ConditionWord) (ws : Rest) (holding : Bool) :
    Nat → Action (Bool × Rest)
  | 0 => return (holding, ws)
  | fuel + 1 => do
    let (b, ws) ← negation t ws fuel
    if ConditionWord.ofWords (ws.drop 1) = .both then
      let ws := ws.drop 2
      conjunction (.ofWords ws) ws (holding && b) fuel
    else return (holding && b, ws)

/-- A condition that perhaps must not hold. -/
def negation (t : ConditionWord) (ws : Rest) :
    Nat → Action (Bool × Rest)
  | 0 => return (false, ws)
  | fuel + 1 => do
    if t = .negation then
      let next := ConditionWord.ofWords (ws.drop 1)
      let ws := if next = .finish then ws else ws.drop 1
      let (b, ws) ← negation next ws fuel
      return (!b, ws)
    else primary t ws fuel

/-- A single condition. -/
def primary (t : ConditionWord) (ws : Rest) :
    Nat → Action (Bool × Rest)
  | 0 => return (false, ws)
  | fuel + 1 => do
    match t with
    | .finish => return (false, ws)
    | .opening =>
      let ws := ws.drop 1
      let next := ConditionWord.ofWords ws
      if next = .closing then return (false, ws)
      else
        let (b, ws) ← alternatives next ws false fuel
        let ws := ws.drop 1
        if ConditionWord.ofWords ws = .closing then return (b, ws)
        else mistake [] "closing paren expected"
    | .unary c =>
      match ws.drop 1 with
      | [] => mistake (ws.headD []) "argument expected"
      | w :: rest => return (← holds c w, w :: rest)
    | _ =>
      if ConditionWord.ofWords (ws.drop 1) = .binary then
        let operator := ws.drop 1
        match operator.drop 1 with
        | [] => mistake (operator.headD []) "argument expected"
        | b :: rest =>
          return (← compares (operator.headD []) (ws.headD []) b, b :: rest)
      else return (!(ws.headD []).isEmpty, ws)

end

/-- A condition whose first word is read already; no words may be left. -/
def whole (t : ConditionWord) (ws : Rest) : Action Bool := do
  let (b, ws) ← alternatives t ws false (4 * ws.length + 4)
  match ws with
  | w :: _ :: _ => mistake w "unexpected operator"
  | _ => return b

/-- The words of a condition. Three and four of them have a meaning of their
own: an operator in the middle counts as such, else parentheses around the
others, else a negation before them. -/
def ofWords : List Stream → Action Bool
  | [] => return false
  | [a, b, c] =>
    if ConditionWord.operator? b = some .binary then
      whole .operand [a, b, c]
    else if a = ['('] && c = [')'] then whole (.ofWords [b]) [b]
    else if a = ['!'] then do return !(← ofWords [b, c])
    else whole (.ofWords [a, b, c]) [a, b, c]
  | [a, b, c, d] =>
    if a = ['('] && d = [')'] then whole (.ofWords [b, c]) [b, c]
    else if a = ['!'] then do return !(← ofWords [b, c, d])
    else whole (.ofWords [a, b, c, d]) [a, b, c, d]
  | ws => whole (.ofWords ws) ws

end Condition

/-- `test`. -/
def test : Builtin := fun arguments => do
  return if ← Condition.ofWords arguments then 0 else 1

/-- A condition in brackets. -/
def bracket : Builtin := fun arguments => do
  if arguments.getLast? = some [']'] then test arguments.dropLast
  else Action.fail "missing ]".toList

end ApiContract.Shell.Builtin
