/-
What expressions mean. An expression is asked for its value, for whether it
holds, or for a number, depending on where it stands; what it does not have
is an error.

A path that leads nowhere is an error as a value, does not hold as a
condition, and is negated to something that holds, unless its first filter
names a value that stands in for what is not there. A comparison that is
negated and asked for its value is negated once for being a condition and
once more for being a value, so its own outcome remains.
-/
import ApiContract.Template.Probe

namespace ApiContract.Template

/-- Names joined to values, some of which cannot be had. -/
abbrev Offered := List (String × Option Value)

/-- All values, if they can be had. -/
def Offered.all? (offered : Offered) : Option Named :=
  offered.mapM fun (name, v) => v.map (name, ·)

/-- The text that a part of a joined text adds. -/
def jointText? : Value → Option String
  | .text s => some s
  | .int i => some (toString i)
  | .real x => some (Number.documentLayout.text x)
  | _ => none

/-- The value of an expression, given that of its term and what the filters
make of a value. -/
def valueOfTerm? (v : Option Value) (through : Value → Option Value)
    (negated : Bool) : Option Value := do
  let w ← through (← v)
  return if negated then .bool !(isTrue w) else w

/-- The value of an expression that begins with a path, given where the path
leads and, if a filter names one, the value that stands in for nothing. -/
def valueOfPath? (found : Option Value) (standIn : Option (Option Value))
    (through : Value → Option Value) (negated : Bool) : Option Value :=
  match found, standIn with
  | none, some v | some .null, some v => valueOfTerm? v through negated
  | some .null, none => if negated then some (.bool true) else through .null
  | some v, _ => valueOfTerm? (some v) through negated
  | none, none => if negated then some (.bool true) else none

/-- The number that a value is as an outcome. -/
def outcome? : Value → Option Outcome
  | .int i => some (.number (.int i))
  | .real x => some (.number (.real x))
  | _ => none

mutual

/-- The value of a term that is no condition joined from others. -/
def Term.value? (scope : Scope) : Term → Option Value
  | .text s => some (.text s)
  | .whole i => some (.int i)
  | .real x => some (.real x)
  | .bool b => some (.bool b)
  | .path p => scope.value? p
  | .list items => (valuesOf? scope items).map .list
  | .joined parts => (jointOf? scope parts).map .text
  | .call name arguments => do
    call? name (← (offeredOf scope arguments).all?)
  | .expand space name arguments =>
    (scope.expand space name (offeredOf scope arguments)).map .text
  | .test p positive name arguments => do
    let holds ← test? name (scope.value? p) (← valuesOf? scope arguments)
    return .bool (holds == positive)
  | .math op left right => do
    let out ← op.compute? (← left.outcome? scope) (← right.outcome? scope)
    return out.value
  | .within item container positive => do
    let present ←
      contains? (← container.value? scope) (← item.value? scope)
    return .bool (present == positive)
  | .compare .. | .both .. | .either .. => none

/-- Whether a condition that is joined from others holds. -/
def Term.holds? (scope : Scope) : Term → Option Bool
  | .compare c left right =>
    match c with
    | .equal | .different => do
      return c.ofValues (← left.value? scope) (← right.value? scope)
    | _ => do
      match ← left.outcome? scope, ← right.outcome? scope with
      | .number v, .number w => c.ofSizes? v w
      | _, _ => none
  | .both left right => do
    if ← left.holds? scope then right.holds? scope else some false
  | .either left right => do
    if ← left.holds? scope then some true else right.holds? scope
  | _ => none

/-- The number that a term is. -/
def Term.outcome? (scope : Scope) : Term → Option Outcome
  | .whole i => some (.number (.int i))
  | .real x => some (.number (.real x))
  | .path p => (scope.value? p).bind Template.outcome?
  | .math op left right => do
    op.compute? (← left.outcome? scope) (← right.outcome? scope)
  | .call name arguments => do
    Template.outcome?
      (← call? name (← (offeredOf scope arguments).all?))
  | _ => none

/-- The values of expressions. -/
def valuesOf? (scope : Scope) : List Expression → Option (List Value)
  | [] => some []
  | e :: es => do return (← e.value? scope) :: (← valuesOf? scope es)

/-- The values of named arguments. -/
def offeredOf (scope : Scope) : List (String × Expression) → Offered
  | [] => []
  | (name, e) :: rest => (name, e.value? scope) :: offeredOf scope rest

/-- The texts of the parts of a joined text, one behind another. -/
def jointOf? (scope : Scope) : List Term → Option String
  | [] => some ""
  | t :: ts => do
    let s ← jointText? (← t.value? scope)
    return s ++ (← jointOf? scope ts)

/-- The value behind filters. -/
def through? (scope : Scope) : List Filter → Value → Option Value
  | [], v => some v
  | .of name arguments :: fs, v =>
    if name = "safe" || name = "default" then through? scope fs v
    else do
      let w ← Filter.passed? name (← (offeredOf scope arguments).all?) v
      through? scope fs w

/-- The value that the first filter names for one that is not there. -/
def standIn? (scope : Scope) : List Filter → Option (Option Value)
  | .of name arguments :: _ =>
    if name = "default" then
      some ((offeredOf scope arguments).reverse.lookup "value").join
    else none
  | [] => none

/-- The value of an expression. -/
def Expression.value? (scope : Scope) : Expression → Option Value
  | .of t filters negated =>
    match t with
    | .path p =>
      valueOfPath? (scope.value? p) (standIn? scope filters)
        (through? scope filters) negated
    | .compare .. | .both .. | .either .. => (t.holds? scope).map .bool
    | _ => valueOfTerm? (t.value? scope) (through? scope filters) negated

/-- Whether an expression holds. Of one that begins with a literal, a
calculation or a call the filters do not matter. -/
def Expression.holds? (scope : Scope) : Expression → Option Bool
  | .of t filters negated =>
    match t with
    | .path p =>
      some ((valueOfPath? (scope.value? p) (standIn? scope filters)
        (through? scope filters) negated).any isTrue)
    | .compare .. | .both .. | .either .. =>
      (t.holds? scope).map (· != negated)
    | .whole _ | .real _ | .math .. =>
      (t.outcome? scope).map fun
        | .number v => isTrue v != negated
        | .undefined => negated
    | .joined _ =>
      match valueOfTerm? (t.value? scope) (through? scope filters) negated with
      | some (.text s) => some !s.isEmpty
      | _ => none
    | .text _ | .expand .. =>
      (t.value? scope).map fun v => isTrue v != negated
    | .bool _ | .test .. | .within .. | .call .. =>
      match t.value? scope with
      | some (.bool b) => some (b != negated)
      | _ => none
    | .list _ => none

/-- The number that an expression is. -/
def Expression.outcome? (scope : Scope) : Expression → Option Outcome
  | .of t [] _ => t.outcome? scope
  | .of t filters negated => do
    let v ← valueOfTerm? (t.value? scope) (through? scope filters) negated
    Template.outcome? v

end

end ApiContract.Template
