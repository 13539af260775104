/-
The tests of templates, which ask something about what a path leads to, and
the functions. A test or function that is not known, or that gets arguments
it cannot work with, is an error.
-/
import ApiContract.Template.Filter

namespace ApiContract.Template

/-- One text is somewhere in another. -/
def isPart (part : List Char) : List Char → Bool
  | [] => part.isEmpty
  | c :: cs => part.isPrefixOf (c :: cs) || isPart part cs

/-- A value contains another: a text a part, a list an item, an object the
name of a field. -/
def contains? : Value → Value → Option Bool
  | .text s, .text part => some (isPart part.toList s.toList)
  | .list items, v => some (items.any (isSame v))
  | .object fields, .text name => some (Value.field? name fields).isSome
  | _, _ => none

/-- A number is a multiple of another. -/
def isMultiple? (v w : Value) : Option Bool := do
  let y ← number? w
  match (← number? v).rem y with
  | none => return false
  | some r => return r.isZero

/-- What a test says of a value, which may be missing. -/
def test? (name : String) (found : Option Value) (arguments : List Value) :
    Option Bool :=
  match name, found, arguments with
  | "defined", v, [] => some v.isSome
  | "undefined", v, [] => some v.isNone
  | "odd", some v, [] => (isMultiple? v (.int 2)).map (!·)
  | "even", some v, [] => isMultiple? v (.int 2)
  | "divisibleby", some v, [w] => isMultiple? v w
  | "string", some v, [] => some (text? v).isSome
  | "number", some v, [] => some (number? v).isSome
  | "iterable", some v, [] =>
    match v with
    | .list _ | .object _ => some true
    | _ => some false
  | "object", some v, [] =>
    match v with
    | .object _ => some true
    | _ => some false
  | "starting_with", some (.text s), [.text part] =>
    some (part.toList.isPrefixOf s.toList)
  | "ending_with", some (.text s), [.text part] =>
    some (part.toList.isSuffixOf s.toList)
  | "containing", some v, [w] => contains? v w
  | _, _, _ => none

/-- What a function gives. -/
def call? (name : String) (arguments : Named) : Option Value :=
  match name with
  | "range" => do
    let start ← want arguments "start" count? 0
    let step ← want arguments "step_by" count? 1
    let stop ← need arguments "end" count?
    if stop < start || step = 0 then failure
    return .list ((List.range ((stop - start + step - 1) / step)).map
      fun (i : Nat) => .int (start + i * step : Nat))
  | _ => none

end ApiContract.Template
