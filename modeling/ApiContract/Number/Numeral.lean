/-
Decimal numerals as texts: sign, whole digits, fraction, exponent. Formats
differ in what they allow (leading zeros, a point with nothing beside it), so
`read?` takes the widest form apart and each format states its own limits on
the parts. A format that keeps whole numbers also says how wide they may be.
-/
import ApiContract.Number.Binary64

namespace ApiContract.Number

/-- A numeral taken apart. `fraction` is present when there is a point, and
`exponent` (negative or not, digits) when there is an `e`. -/
structure Numeral where
  sign : Option Char
  whole : List Char
  fraction : Option (List Char)
  exponent : Option (Bool × List Char)
  deriving DecidableEq, Repr

namespace Numeral

/-- The number that digits denote. -/
def digitsValue (ds : List Char) : Nat :=
  ds.foldl (fun n c => n * 10 + (c.toNat - 0x30)) 0

/-- The exponent behind an `e`, to the end of the text. -/
def readExponent? (cs : List Char) : Option (Bool × List Char) :=
  let (negative, ds) : Bool × List Char :=
    match cs with
    | '-' :: ds => (true, ds)
    | '+' :: ds => (false, ds)
    | ds => (false, ds)
  if !ds.isEmpty && ds.all Char.isDigit then some (negative, ds) else none

/-- Takes a whole text apart; none when it has not the form of a numeral. A
numeral has a digit before or after its point. -/
def read? (cs : List Char) : Option Numeral := do
  let (sign, cs) : Option Char × List Char :=
    match cs with
    | '-' :: rest => (some '-', rest)
    | '+' :: rest => (some '+', rest)
    | rest => (none, rest)
  let whole := cs.takeWhile Char.isDigit
  let cs := cs.dropWhile Char.isDigit
  let (fraction, cs) : Option (List Char) × List Char :=
    match cs with
    | '.' :: rest =>
      (some (rest.takeWhile Char.isDigit), rest.dropWhile Char.isDigit)
    | rest => (none, rest)
  if whole.isEmpty && (fraction.getD []).isEmpty then failure
  match cs with
  | [] => return ⟨sign, whole, fraction, none⟩
  | e :: rest =>
    if e = 'e' ∨ e = 'E' then
      let exponent ← readExponent? rest
      return ⟨sign, whole, fraction, some exponent⟩
    else failure

/-- The sign is a minus. -/
def negative (n : Numeral) : Bool := n.sign == some '-'

/-- The value of the written exponent. -/
def exponentValue (n : Numeral) : Int :=
  match n.exponent with
  | none => 0
  | some (true, ds) => -(digitsValue ds : Int)
  | some (false, ds) => (digitsValue ds : Int)

/-- The numeral rounded to the nearest binary64 number; none past the
greatest finite one. -/
def toBinary64? (n : Numeral) : Option Binary64 :=
  let fraction := n.fraction.getD []
  Binary64.ofDecimal n.negative (digitsValue (n.whole ++ fraction))
    (n.exponentValue - (fraction.length : Int))

end Numeral

-- ======================================================= limited widths

/-- How many numbers a width has. -/
def span (bits : Nat) : Int := (Nat.pow 2 bits : Nat)

/-- The number lies in a width without a sign. -/
def fitsUnsigned (bits : Nat) (i : Int) : Bool := 0 ≤ i && i < span bits

/-- The number lies in a width with a sign. -/
def fitsSigned (bits : Nat) (i : Int) : Bool :=
  -span (bits - 1) ≤ i && i < span (bits - 1)

end ApiContract.Number
