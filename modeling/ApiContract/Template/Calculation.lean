/-
Calculating in templates: with whole numbers as long as both operands are
whole and of one width, with binary64 numbers otherwise. A division is always
of the latter kind and gives a whole number when it comes out even. What
leaves the width, and a remainder by a whole zero, is an error; what is no
finite number is shown as such.
-/
import ApiContract.Number.Numeral
import ApiContract.Template.Expression
import ApiContract.Template.Shown

namespace ApiContract.Template

/-- What a calculation gives: a number, or nothing that is one. -/
inductive Outcome where
  | number (v : Value)
  | undefined

/-- A binary64 number as an outcome. -/
def Outcome.ofReal : Option Number.Binary64 → Outcome
  | some x => .number (.real x)
  | none => .undefined

/-- The value of an outcome. -/
def Outcome.value : Outcome → Value
  | number v => v
  | undefined => .text "NaN"

/-- A whole number as an outcome, if it fits the width of the operands. -/
def wholeOutcome? (signed : Bool) (i : Int) : Option Outcome :=
  if (if signed then Number.fitsSigned 64 i else Number.fitsUnsigned 64 i) then
    some (.number (.int i))
  else none

/-- Whole numbers are both signed of 64 bits (true), or both unsigned. -/
def commonWidth? (i j : Int) : Option Bool :=
  if Number.fitsSigned 64 i && Number.fitsSigned 64 j then some true
  else if 0 ≤ i && 0 ≤ j then some false
  else none

/-- A binary64 quotient, whole when it comes out even. Past the width of
whole numbers the nearest one is taken. -/
def quotient (x y : Number.Binary64) : Outcome :=
  match x.div y with
  | none => .undefined
  | some z =>
    match z.toInt? with
    | none => .number (.real z)
    | some i =>
      let half := Number.span 63
      .number (.int (max (-half) (min (half - 1) i)))

namespace Arithmetic

/-- The operation on binary64 numbers. -/
def ofReals (op : Arithmetic) (x y : Number.Binary64) : Outcome :=
  match op with
  | plus => .ofReal (x.add y)
  | minus => .ofReal (x.add y.neg)
  | times => .ofReal (x.mul y)
  | divided => quotient x y
  | modulo => .ofReal (x.rem y)

/-- The operation on whole numbers of one width. -/
def ofWholes? (op : Arithmetic) (signed : Bool) (i j : Int) :
    Option Outcome :=
  match op with
  | plus => wholeOutcome? signed (i + j)
  | minus => wholeOutcome? signed (i - j)
  | times => wholeOutcome? signed (i * j)
  | modulo => if j = 0 then none else wholeOutcome? signed (i.tmod j)
  | divided => do return quotient (← number? (.int i)) (← number? (.int j))

/-- The operation on two numbers; none when it is an error. -/
def ofNumbers? (op : Arithmetic) (v w : Value) : Option Outcome :=
  let real : Option Outcome := do
    return op.ofReals (← number? v) (← number? w)
  match v, w with
  | .int i, .int j =>
    match commonWidth? i j with
    | some signed => op.ofWholes? signed i j
    | none => real
  | _, _ => real

/-- The operation on two outcomes. -/
def compute? (op : Arithmetic) : Outcome → Outcome → Option Outcome
  | .number v, .number w => op.ofNumbers? v w
  | _, _ => some .undefined

end Arithmetic

/-- What a comparison by size says. -/
def Comparison.ofSizes? (c : Comparison) (v w : Value) : Option Bool := do
  let x ← number? v
  let y ← number? w
  match c with
  | less => return x.isLess y
  | greater => return y.isLess x
  | lessOrEqual => return !y.isLess x
  | greaterOrEqual => return !x.isLess y
  | equal => return x.isSame y
  | different => return !x.isSame y

/-- Whether two values are equal, or different, as asked for. A number and
something else are neither. -/
def Comparison.ofValues (c : Comparison) (v w : Value) : Bool :=
  match number? v, number? w with
  | some x, some y => x.isSame y == (c == .equal)
  | none, none => isSame v w == (c == .equal)
  | _, _ => false

end ApiContract.Template
