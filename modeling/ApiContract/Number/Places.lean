/-
Numbers written with a given number of places: decimal ones with or without an
exponent, and sixteenths of the mantissa. What does not fit is rounded to the
nearest, a tie to the even digit.
-/
import ApiContract.Number.Shortest

namespace ApiContract.Number.Binary64

/-- Digits with at least one before the last `places`: those before the point
and those behind it. -/
def aroundPoint (digits : List Char) (places : Nat) :
    List Char × List Char :=
  let digits := List.replicate (places + 1 - digits.length) '0' ++ digits
  (digits.take (digits.length - places), digits.drop (digits.length - places))

/-- The magnitude with so many decimal places. -/
def withPlaces (x : Binary64) (places : Nat) : List Char × List Char :=
  let (num, den) := x.quotient
  aroundPoint (Nat.toDigits 10 (nearest (num * Nat.pow 10 places) den)) places

/-- The magnitude as one digit with so many places behind it and a power of
ten. -/
def withExponent (x : Binary64) (places : Nat) :
    (List Char × List Char) × Int :=
  if x.isZero then (aroundPoint [] places, 0)
  else
    let (num, den) := x.quotient
    let e := Decimal.leading num den
    let (n, d) := Decimal.scaled num den (e - (places : Int))
    let digits := Nat.toDigits 10 (nearest n d)
    let e := if digits.length = places + 2 then e + 1 else e
    (aroundPoint (digits.take (places + 1)) places, e)

/-- The magnitude as one digit with places that count sixteenths and a power
of two; as many places as are needed if their number is not given. -/
def withSixteenths (x : Binary64) (places : Option Nat) :
    (List Char × List Char) × Int :=
  let e : Int := if x.isZero then 0 else x.exponent + 52
  match places with
  | some places =>
    if 13 ≤ places then
      let (whole, rest) := aroundPoint (Nat.toDigits 16 x.mantissa) 13
      ((whole, rest ++ List.replicate (places - 13) '0'), e)
    else
      let m := nearest x.mantissa (Nat.pow 16 (13 - places))
      (aroundPoint (Nat.toDigits 16 m) places, e)
  | none =>
    let (whole, rest) := aroundPoint (Nat.toDigits 16 x.mantissa) 13
    ((whole, (rest.reverse.dropWhile (· = '0')).reverse), e)

end ApiContract.Number.Binary64
