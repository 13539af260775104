/-
Numbers and moments of settings files. They hold no blanks, so each is one
word; only between a day and a time of day may a space stand. Whole numbers
have 64 bits. A negative number past the least finite one is an infinity, a
positive one past the greatest is refused.
-/
import ApiContract.Document.Toml.Value
import ApiContract.Number.Numeral
import ApiContract.Text.Chars

namespace ApiContract.Toml

-- =============================================================== digits

/-- The digits with the underscores between two of them taken out; none for
an underscore elsewhere or another character. -/
def joinDigits? (isDigit : Char → Bool) (cs : List Char) :
    Option (List Char) :=
  match cs with
  | [] => some []
  | c :: rest =>
    if !isDigit c then none
    else
      match rest with
      | '_' :: d :: more =>
        if isDigit d then (joinDigits? isDigit (d :: more)).map (c :: ·)
        else none
      | rest => (joinDigits? isDigit rest).map (c :: ·)
  termination_by cs.length

/-- The number that digits of a base spell. -/
def digitsIn? (base : Nat) (cs : List Char) : Option Nat := do
  let isDigit (c : Char) := (Text.hexValue? c).any (· < base)
  let ds ← joinDigits? isDigit cs
  if ds.isEmpty then failure
  return ds.foldl (fun n c => n * base + (Text.hexValue? c).getD 0) 0

/-- A whole number of 64 bits. -/
def whole? (i : Int) : Option Value :=
  if Number.fitsSigned 64 i then some (.int i) else none

/-- A word without the underscores between its digits; none for an underscore
elsewhere. -/
def withoutUnderscores? : List Char → Option (List Char)
  | [] => some []
  | '_' :: _ => none
  | c :: '_' :: d :: rest =>
    if c.isDigit && d.isDigit then
      (withoutUnderscores? (d :: rest)).map (c :: ·)
    else none
  | c :: rest => (withoutUnderscores? rest).map (c :: ·)

/-- A number in base ten. No zero leads a longer whole part, and a point has
digits on both sides. -/
def decimal? (cs : List Char) : Option Value := do
  let n ← Number.Numeral.read? (← withoutUnderscores? cs)
  if n.whole.isEmpty || (n.whole.head? = some '0' && 1 < n.whole.length) then
    failure
  if n.fraction = some [] then failure
  if n.fraction.isNone && n.exponent.isNone then
    let i : Int := Number.Numeral.digitsValue n.whole
    whole? (if n.negative then -i else i)
  else
    match n.toBinary64? with
    | some x => return .real (.finite x)
    | none => if n.negative then return .real (.infinite true) else failure

/-- A number written with letters. -/
def special? (cs : List Char) : Option Value :=
  let (negative, word) : Bool × List Char :=
    match cs with
    | '-' :: rest => (true, rest)
    | '+' :: rest => (false, rest)
    | rest => (false, rest)
  if word = "inf".toList then some (.real (.infinite negative))
  else if word = "nan".toList then some (.real .notANumber)
  else none

-- ============================================================== moments

/-- The number of two digits, if it lies within bounds. -/
def pair? (low high : Nat) (a b : Char) : Option Nat :=
  if a.isDigit && b.isDigit then
    let n := Number.Numeral.digitsValue [a, b]
    if low ≤ n ∧ n ≤ high then some n else none
  else none

/-- How many days a month has. -/
def monthLength (year month : Nat) : Nat :=
  if month = 2 then
    if year % 4 = 0 ∧ (year % 100 ≠ 0 ∨ year % 400 = 0) then 29 else 28
  else if [4, 6, 9, 11].contains month then 30
  else 31

/-- The text behind a day, if one stands here. -/
def readDay? : List Char → Option (List Char)
  | y₁ :: y₂ :: y₃ :: y₄ :: '-' :: m₁ :: m₂ :: '-' :: d₁ :: d₂ :: rest => do
    if !([y₁, y₂, y₃, y₄].all Char.isDigit) then failure
    let year := Number.Numeral.digitsValue [y₁, y₂, y₃, y₄]
    let month ← pair? 1 12 m₁ m₂
    let _ ← pair? 1 (monthLength year month) d₁ d₂
    return rest
  | _ => none

/-- The text behind a time of day, if one stands here. -/
def readTime? : List Char → Option (List Char)
  | h₁ :: h₂ :: ':' :: m₁ :: m₂ :: ':' :: s₁ :: s₂ :: rest => do
    let _ ← pair? 0 23 h₁ h₂
    let _ ← pair? 0 59 m₁ m₂
    let _ ← pair? 0 60 s₁ s₂
    match rest with
    | '.' :: rest =>
      if !rest.head?.any Char.isDigit then failure
      return rest.dropWhile Char.isDigit
    | rest => return rest
  | _ => none

/-- The text is a distance from universal time, or there is none. -/
def isOffset : List Char → Bool
  | [] => true
  | ['Z'] | ['z'] => true
  | [sign, h₁, h₂, ':', m₁, m₂] =>
    (sign = '+' || sign = '-') && (pair? 0 23 h₁ h₂).isSome
      && (pair? 0 59 m₁ m₂).isSome
  | _ => false

/-- The word is a day, a time of day, or both with a separator between and
perhaps the distance from universal time behind. -/
def isMoment (cs : List Char) : Bool :=
  match readDay? cs with
  | some [] => true
  | some (separator :: rest) =>
    ['T', 't', ' '].contains separator && (readTime? rest).any isOffset
  | none => (readTime? cs).any List.isEmpty

-- ================================================================ words

/-- A character of numbers and moments. -/
def isWordChar (c : Char) : Bool :=
  c.isAlphanum || ['_', '+', '-', '.', ':'].contains c

/-- The value of a word. -/
def wordValue? (cs : List Char) : Option Value :=
  if isMoment cs then some .moment
  else
    match cs with
    | '0' :: 'x' :: ds => (digitsIn? 16 ds).bind fun n => whole? n
    | '0' :: 'o' :: ds => (digitsIn? 8 ds).bind fun n => whole? n
    | '0' :: 'b' :: ds => (digitsIn? 2 ds).bind fun n => whole? n
    | cs => (special? cs).or (decimal? cs)

/-- The word that begins a text, with a time of day behind a space when it is
a day. -/
def takeWord (cs : List Char) : List Char :=
  let word := cs.takeWhile isWordChar
  match cs.drop word.length with
  | ' ' :: d :: rest =>
    if readDay? word = some [] && d.isDigit then
      word ++ ' ' :: (d :: rest).takeWhile isWordChar
    else word
  | _ => word

/-- A number or a moment. -/
def readWord? (cs : List Char) : Option (Value × List Char) :=
  let word := takeWord cs
  (wordValue? word).map (·, cs.drop word.length)

end ApiContract.Toml
