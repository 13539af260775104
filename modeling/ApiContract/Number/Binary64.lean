/-
Finite binary64 numbers as exact values: a sign, a mantissa below 2^53 and a
power of two. `round` takes any quotient of natural numbers to the nearest of
them, a tie to the even mantissa; all arithmetic is on natural numbers, so
nothing here rests on the machine's own floating point.
-/

namespace ApiContract.Number

/-- The number `±mantissa · 2^exponent`. Either the mantissa has 53 bits or
the exponent is -1074, the least; zero keeps its sign. -/
structure Binary64 where
  negative : Bool
  mantissa : Nat
  exponent : Int
  deriving DecidableEq, Repr

namespace Binary64

/-- Zero with a sign. -/
def zero (negative : Bool) : Binary64 := ⟨negative, 0, -1074⟩

/-- The value is zero, of either sign. -/
def isZero (x : Binary64) : Bool := x.mantissa == 0

/-- `num / den` in units of `2^e`, as a quotient of natural numbers. -/
def scaled (num den : Nat) (e : Int) : Nat × Nat :=
  if 0 ≤ e then (num, den * Nat.pow 2 e.toNat)
  else (num * Nat.pow 2 (-e).toNat, den)

/-- `num / den` to the nearest whole number, a tie to the even one. -/
def nearest (num den : Nat) : Nat :=
  let q := num / den
  let r := num % den
  if 2 * r < den then q
  else if den < 2 * r then q + 1
  else q + q % 2

/-- The exponent at which `num / den` has a mantissa of 53 bits, or the least
exponent if that is higher. -/
def exponentOf (num den : Nat) : Int :=
  let e : Int := (Nat.log2 num : Int) - (Nat.log2 den : Int) - 52
  let (n, d) := scaled num den e
  let e := if n < d * Nat.pow 2 52 then e - 1 else e
  max e (-1074)

/-- A mantissa with its exponent, once a mantissa of 54 bits, which is a power
of two, is carried over to the next exponent. -/
def carry (m : Nat) (e : Int) : Nat × Int :=
  if m = Nat.pow 2 53 then (Nat.pow 2 52, e + 1) else (m, e)

/-- The binary64 number nearest to `±num / den`, a tie to the even mantissa;
none when it would lie past the greatest finite one. -/
def round (negative : Bool) (num den : Nat) : Option Binary64 :=
  if num = 0 then some (zero negative)
  else
    let e := exponentOf num den
    let units := scaled num den e
    let carried := carry (nearest units.1 units.2) e
    if 971 < carried.2 then none
    else some ⟨negative, carried.1, carried.2⟩

/-- The magnitude as a quotient of natural numbers. -/
def quotient (x : Binary64) : Nat × Nat :=
  if 0 ≤ x.exponent then (x.mantissa * Nat.pow 2 x.exponent.toNat, 1)
  else (x.mantissa, Nat.pow 2 (-x.exponent).toNat)

/-- The rounded product; none past the greatest finite number. -/
def mul (x y : Binary64) : Option Binary64 :=
  let (a, b) := x.quotient
  let (c, d) := y.quotient
  round (x.negative != y.negative) (a * c) (b * d)

/-- The rounded quotient; none for a zero divisor and past the greatest
finite number. -/
def div (x y : Binary64) : Option Binary64 :=
  let (a, b) := x.quotient
  let (c, d) := y.quotient
  if c = 0 then none else round (x.negative != y.negative) (a * d) (b * c)

/-- `±n`. -/
def signed (negative : Bool) (n : Nat) : Int :=
  if negative then -(n : Int) else n

/-- The rounded sum; none past the greatest finite number. A sum of nothing
is negative only when both numbers are. -/
def add (x y : Binary64) : Option Binary64 :=
  let (a, b) := x.quotient
  let (c, d) := y.quotient
  let sum := signed x.negative (a * d) + signed y.negative (c * b)
  if sum = 0 then some (zero (x.negative && y.negative))
  else round (sum < 0) sum.natAbs (b * d)

/-- The number with the other sign. -/
def neg (x : Binary64) : Binary64 := { x with negative := !x.negative }

/-- What is left of the first number when the second is taken from it as
often as it can be; it keeps the sign of the first. None for a zero
divisor. -/
def rem (x y : Binary64) : Option Binary64 :=
  let (a, b) := x.quotient
  let (c, d) := y.quotient
  if c = 0 then none else round x.negative (a * d % (c * b)) (b * d)

/-- The first number is less than the second. The two zeros are equal. -/
def isLess (x y : Binary64) : Bool :=
  let (a, b) := x.quotient
  let (c, d) := y.quotient
  signed x.negative (a * d) < signed y.negative (c * b)

/-- The numbers have one value. -/
def isSame (x y : Binary64) : Bool := !x.isLess y && !y.isLess x

/-- The greatest finite number with a sign. -/
def greatest (negative : Bool) : Binary64 := ⟨negative, Nat.pow 2 53 - 1, 971⟩

/-- The finite number nearest to a whole one. -/
def ofInt (i : Int) : Binary64 :=
  (round (i < 0) i.natAbs 1).getD (greatest (i < 0))

/-- The whole number that a number is; none when it has a fraction. -/
def toInt? (x : Binary64) : Option Int :=
  let (a, b) := x.quotient
  if a % b = 0 then some (signed x.negative (a / b)) else none

/-- The number nearest to `±digits · 10^exponent`; none past the greatest
finite number. An exponent far below the least number gives zero at once, one
far above the greatest gives none, without the power being formed. -/
def ofDecimal (negative : Bool) (digits : Nat) (exponent : Int) :
    Option Binary64 :=
  if digits = 0 then some (zero negative)
  else
    let size : Int := (Nat.log2 digits : Int)
    if 0 ≤ exponent then
      if 400 < exponent then none
      else round negative (digits * Nat.pow 10 exponent.toNat) 1
    else if exponent * 3 + size < -1080 - 64 then some (zero negative)
    else round negative digits (Nat.pow 10 (-exponent).toNat)

end Binary64

end ApiContract.Number
