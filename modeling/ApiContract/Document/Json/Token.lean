/-
JSON tokens. A text is read in one pass, character by character, with what is
under way (a word, a number, a string, an escape in it) as the state; each
step yields the tokens that the character completes.
-/
import ApiContract.Document.Value
import ApiContract.Number.Numeral
import ApiContract.Text.Chars

namespace ApiContract.Json

/-- A token; numbers and words arrive as the values they denote. -/
inductive Token where
  | openList
  | closeList
  | openObject
  | closeObject
  | comma
  | colon
  | scalar (v : Value)
  | text (s : String)
  deriving Repr, Inhabited

-- ============================================================= numbers

/-- Digits are added to the significand as long as it stays below 2^64; the
rest is returned. -/
def takeSignificand (n : Nat) : List Char → Nat × List Char
  | [] => (n, [])
  | c :: cs =>
    let m := n * 10 + (c.toNat - 0x30)
    if Number.fitsUnsigned 64 m then takeSignificand m cs else (n, c :: cs)

/-- A power of ten, rounded. -/
def tenTo (k : Nat) : Number.Binary64 :=
  (Number.Binary64.ofDecimal false 1 k).getD (Number.Binary64.zero false)

/-- `f · 10^e` in one rounded multiplication or division by a power of ten up
to 10^308; a lower exponent takes a division by 10^308 first, which leaves
zero when even that is not enough. -/
def scale (f : Number.Binary64) (e : Int) : Option Number.Binary64 :=
  if 0 ≤ e then
    if e ≤ 308 then f.mul (tenTo e.toNat)
    else if f.isZero then some f
    else none
  else if -308 ≤ e then f.div (tenTo (-e).toNat)
  else if -616 ≤ e then do
    (← f.div (tenTo 308)).div (tenTo (-e - 308).toNat)
  else some (Number.Binary64.zero f.negative)

/-- The number that a numeral denotes. No plus sign, no leading zero, no bare
point. A whole number stays one if it fits 64 bits, signed or unsigned, but
`-0` is a binary64 number. Of other numbers, the leading digits that fit 64
bits are the significand, digits of the whole part past them count towards
the exponent, and those of the fraction are dropped. -/
def number? (cs : List Char) : Option Value := do
  let n ← Number.Numeral.read? cs
  if n.sign = some '+' ∨ n.whole.isEmpty ∨ n.fraction = some [] then failure
  if n.whole.head? = some '0' ∧ n.whole.length ≠ 1 then failure
  let (significand, left) := takeSignificand 0 n.whole
  if left.isEmpty && n.fraction.isNone && n.exponent.isNone then
    if !n.negative then return .int significand
    else if significand ≠ 0 ∧ Number.fitsSigned 64 (-(significand : Int)) then
      return .int (-(significand : Int))
  let fraction := n.fraction.getD []
  let (significand, dropped) := takeSignificand significand fraction
  let shift : Int :=
    (left.length : Int) - ((fraction.length : Int) - (dropped.length : Int))
  let f ← Number.Binary64.ofDecimal n.negative significand 0
  return .real (← scale f (n.exponentValue + shift))

-- =============================================================== tokens

/-- What is under way between two characters; texts so far are reversed. -/
inductive Reading where
  | between
  | word (done : List Char)
  | number (done : List Char)
  | text (done : List Char)
  | escape (done : List Char)
  | unit (done : List Char) (high : Option Nat) (value count : Nat)
  | lowAwaited (done : List Char) (high : Nat)
  | lowEscape (done : List Char) (high : Nat)
  deriving Repr

/-- The value that a word stands for. -/
def word? (cs : List Char) : Option Value :=
  match String.ofList cs with
  | "null" => some .null
  | "true" => some (.bool true)
  | "false" => some (.bool false)
  | _ => none

/-- White space between tokens. -/
def isSpace (c : Char) : Bool := c = ' ' || c = '\t' || c = '\n' || c = '\r'

/-- Characters of numerals. -/
def isNumeric (c : Char) : Bool :=
  c.isDigit || c = '-' || c = '+' || c = '.' || c = 'e' || c = 'E'

/-- A character with no token under way. -/
def begin (c : Char) : Option (List Token × Reading) :=
  if isSpace c then some ([], .between)
  else if c.isDigit || c = '-' then some ([], .number [c])
  else if c.isLower then some ([], .word [c])
  else
    match c with
    | '"' => some ([], .text [])
    | '[' => some ([.openList], .between)
    | ']' => some ([.closeList], .between)
    | '{' => some ([.openObject], .between)
    | '}' => some ([.closeObject], .between)
    | ',' => some ([.comma], .between)
    | ':' => some ([.colon], .between)
    | _ => none

/-- The character behind a backslash, if it is a short escape. -/
def shortEscape? (c : Char) : Option Char :=
  match c with
  | '"' => some '"'
  | '\\' => some '\\'
  | '/' => some '/'
  | 'b' => some '\x08'
  | 'f' => some '\x0c'
  | 'n' => some '\n'
  | 'r' => some '\r'
  | 't' => some '\t'
  | _ => none

/-- A finished `\u` escape: a character, or the first half of a pair. A second
half without a first, and a first without a second, are refused. -/
def finishUnit (done : List Char) (high : Option Nat) (n : Nat) :
    Option Reading :=
  match high with
  | some h =>
    if 0xDC00 ≤ n && n ≤ 0xDFFF then
      some (.text (Char.ofNat
        (0x10000 + (h - 0xD800) * 0x400 + (n - 0xDC00)) :: done))
    else none
  | none =>
    if 0xD800 ≤ n && n ≤ 0xDBFF then some (.lowAwaited done n)
    else if 0xDC00 ≤ n && n ≤ 0xDFFF then none
    else some (.text (Char.ofNat n :: done))

/-- One character further. -/
def Reading.step (r : Reading) (c : Char) : Option (List Token × Reading) :=
  match r with
  | .between => begin c
  | .word done =>
    if c.isLower then some ([], .word (c :: done))
    else do
      let v ← word? done.reverse
      let (ts, r) ← begin c
      return (.scalar v :: ts, r)
  | .number done =>
    if isNumeric c then some ([], .number (c :: done))
    else do
      let v ← number? done.reverse
      let (ts, r) ← begin c
      return (.scalar v :: ts, r)
  | .text done =>
    if c = '"' then some ([.text (String.ofList done.reverse)], .between)
    else if c = '\\' then some ([], .escape done)
    else if c.toNat < 0x20 then none
    else some ([], .text (c :: done))
  | .escape done =>
    if c = 'u' then some ([], .unit done none 0 0)
    else (shortEscape? c).map fun e => ([], .text (e :: done))
  | .unit done high value count => do
    let n := value * 16 + (← Text.hexValue? c)
    if count = 3 then return ([], ← finishUnit done high n)
    else return ([], .unit done high n (count + 1))
  | .lowAwaited done high =>
    if c = '\\' then some ([], .lowEscape done high) else none
  | .lowEscape done high =>
    if c = 'u' then some ([], .unit done (some high) 0 0) else none

/-- The tokens that the end of the text completes. -/
def Reading.finish (r : Reading) : Option (List Token) :=
  match r with
  | .between => some []
  | .word done => (word? done.reverse).map fun v => [.scalar v]
  | .number done => (number? done.reverse).map fun v => [.scalar v]
  | _ => none

/-- The tokens of a text, from what is under way on. The tokens so far are
reversed. -/
def tokensFrom (done : List Token) (r : Reading) :
    List Char → Option (List Token)
  | [] => r.finish.map fun ts => (ts.reverse ++ done).reverse
  | c :: cs =>
    match r.step c with
    | none => none
    | some (ts, r) => tokensFrom (ts.reverse ++ done) r cs

/-- The tokens of a text. -/
def tokens? (cs : List Char) : Option (List Token) :=
  tokensFrom [] .between cs

end ApiContract.Json
