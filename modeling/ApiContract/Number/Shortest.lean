/-
The shortest decimal that reads back. Around a binary64 number lies an
interval of reals that round to it, ends included when the mantissa is even.
On the grid of decimals with 1, 2, … 17 digits only the two neighbours of the
number can be the nearest ones inside; the first grid with a neighbour in the
interval gives the digits, and of two such neighbours the nearer one.

`Layout` holds what a format decides: where positional notation ends and how
an exponent is written.
-/
import ApiContract.Number.Binary64

namespace ApiContract.Number

/-- The decimal `digits · 10^exponent`; no trailing zero in `digits`. -/
structure Decimal where
  digits : Nat
  exponent : Int
  deriving DecidableEq, Repr

namespace Decimal

/-- The decimal without trailing zeros in its digits. -/
def strip (digits : Nat) (exponent : Int) : Nat → Decimal
  | 0 => ⟨digits, exponent⟩
  | fuel + 1 =>
    if digits ≠ 0 ∧ digits % 10 = 0 then
      strip (digits / 10) (exponent + 1) fuel
    else ⟨digits, exponent⟩

/-- `num / den` in units of `10^k`, as a quotient of natural numbers. -/
def scaled (num den : Nat) (k : Int) : Nat × Nat :=
  if 0 ≤ k then (num, den * Nat.pow 10 k.toNat)
  else (num * Nat.pow 10 (-k).toNat, den)

/-- The exponent of the leading decimal digit of `num / den`, for a number
not below 10^-400. -/
def leading (num den : Nat) : Int :=
  ((Nat.toDigits 10 (num * Nat.pow 10 400 / den)).length : Int) - 401

/-- One of the grid points around `num / den` in units of `10^k` that lies
between `low` and `high` (quotients over `den` as well), if there is one. -/
def onGrid (num low high den : Nat) (closed : Bool) (k : Int) : Option Nat :=
  let (n, d) := scaled num den k
  let (lo, _) := scaled low den k
  let (hi, _) := scaled high den k
  let below := n / d
  let inside (p : Nat) : Bool :=
    if closed then lo ≤ p * d && p * d ≤ hi else lo < p * d && p * d < hi
  match inside below, inside (below + 1) with
  | false, false => none
  | true, false => some below
  | false, true => some (below + 1)
  | true, true =>
    let down := n - below * d
    let up := (below + 1) * d - n
    if down < up then some below
    else if up < down then some (below + 1)
    else some (below + below % 2)

/-- The first grid, from `n` digits on, that has a point in the interval. The
second number counts the grids that are left to try: 17 digits always have
one. -/
def search (num low high den : Nat) (closed : Bool) (lead : Int) :
    Nat → Nat → Decimal
  | _, 0 => ⟨num / den, 0⟩
  | n, fuel + 1 =>
    let k := lead - (n : Int) + 1
    match onGrid num low high den closed k with
    | some p => strip p k 20
    | none => search num low high den closed lead (n + 1) fuel

/-- The shortest decimal that rounds to the magnitude of `x`, and of the
shortest ones the nearest to it. Below a power of two the neighbour is half
as far away as above it, except at the least exponent. -/
def shortest (x : Binary64) : Decimal :=
  if x.isZero then ⟨0, 0⟩
  else
    let (num, den) := Binary64.quotient ⟨false, x.mantissa, x.exponent - 2⟩
    let unit := num / x.mantissa
    let closeBelow := x.mantissa == Nat.pow 2 52 && x.exponent != -1074
    let low := 4 * num - (if closeBelow then 1 else 2) * unit
    let high := 4 * num + 2 * unit
    let even := x.mantissa % 2 == 0
    search (4 * num) low high den even (leading (4 * num) den) 1 17

end Decimal

-- ===================================================== decimal as text

/-- What a format decides about the text of a number: the exponents of the
leading digit that are written positionally, and the sign before a positive
exponent. -/
structure Layout where
  leastPositional : Int
  greatestPositional : Int
  plus : String
  deriving DecidableEq, Repr

/-- The digits of a natural number. -/
def digits (n : Nat) : String := String.ofList (Nat.toDigits 10 n)

/-- `n` zeros. -/
def zeros (n : Nat) : String := String.ofList (List.replicate n '0')

/-- A decimal in positional notation, with a point in it always. -/
def positional (d : Decimal) : String :=
  let ds := Nat.toDigits 10 d.digits
  if 0 ≤ d.exponent then
    String.ofList ds ++ zeros d.exponent.toNat ++ ".0"
  else
    let places := (-d.exponent).toNat
    if places < ds.length then
      String.ofList (ds.take (ds.length - places)) ++ "."
        ++ String.ofList (ds.drop (ds.length - places))
    else "0." ++ zeros (places - ds.length) ++ String.ofList ds

/-- A decimal with one digit before the point and an exponent behind. -/
def scientific (plus : String) (d : Decimal) : String :=
  let ds := Nat.toDigits 10 d.digits
  let e : Int := d.exponent + (ds.length : Int) - 1
  let tail := ds.drop 1
  String.ofList (ds.take 1)
    ++ (if tail.isEmpty then "" else "." ++ String.ofList tail)
    ++ "e"
    ++ (if 0 ≤ e then plus ++ digits e.toNat else "-" ++ digits (-e).toNat)

/-- The text of a number by the shortest decimal that reads back. -/
def Layout.text (l : Layout) (x : Binary64) : String :=
  let d := Decimal.shortest x
  let lead : Int := d.exponent + ((Nat.toDigits 10 d.digits).length : Int) - 1
  (if x.negative then "-" else "")
    ++ (if l.leastPositional ≤ lead ∧ lead ≤ l.greatestPositional
        then positional d else scientific l.plus d)

/-- Documents write a number positionally from 10^-5 up to below 10^16, and
otherwise with a signed exponent. -/
def documentLayout : Layout := ⟨-5, 15, "+"⟩

/-- Settings files show a number positionally whatever its size. -/
def settingsLayout : Layout := ⟨-400, 400, ""⟩

end ApiContract.Number
