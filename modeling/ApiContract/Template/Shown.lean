/-
How values are written by a template, when they hold as conditions, and when
two of them are the same. Fields of an object come in the order of their
names.
-/
import ApiContract.Document.Json.Printer

namespace ApiContract.Template

/-- The fields of an object in the order of their names; of several with one
name the last counts. -/
def sortedFields (fields : List (String × Value)) : List (String × Value) :=
  ((fields.map (·.1)).eraseDups.mergeSort (fun a b => decide (a ≤ b))).filterMap
    fun name => (Value.field? name fields).map (name, ·)

/-- A number in positional notation, without a point when it is whole. -/
def numberText (x : Number.Binary64) : String :=
  let s := Number.settingsLayout.text x
  if s.endsWith ".0" then (s.dropEnd 2).toString else s

mutual

/-- The text of a value. -/
def valueText : Value → String
  | .null => ""
  | .bool b => if b then "true" else "false"
  | .int i => toString i
  | .real x => numberText x
  | .text s => s
  | .list items => "[" ++ String.intercalate ", " (valueTexts items) ++ "]"
  | .object _ => "[object]"

/-- The texts of values. -/
def valueTexts : List Value → List String
  | [] => []
  | v :: vs => valueText v :: valueTexts vs

end

/-- A value as a condition: nothing, zero and what is empty do not hold. -/
def isTrue : Value → Bool
  | .null => false
  | .bool b => b
  | .int i => i ≠ 0
  | .real x => !x.isZero
  | .text s => !s.isEmpty
  | .list items => !items.isEmpty
  | .object fields => !fields.isEmpty

mutual

/-- Two values are the same. Whole numbers and others are told apart. -/
def isSame : Value → Value → Bool
  | .null, .null => true
  | .bool a, .bool b => a == b
  | .int a, .int b => a == b
  | .real a, .real b => a.isSame b
  | .text a, .text b => a == b
  | .list a, .list b => areSame a b
  | .object a, .object b => a.length == b.length && haveSame a b
  | _, _ => false

/-- The values of two lists are the same, pair by pair. -/
def areSame : List Value → List Value → Bool
  | [], [] => true
  | a :: as, b :: bs => isSame a b && areSame as bs
  | _, _ => false

/-- Each field has its like among others. -/
def haveSame : List (String × Value) → List (String × Value) → Bool
  | [], _ => true
  | (k, a) :: as, bs => (Value.field? k bs).any (isSame a) && haveSame as bs

end

/-- The number that a value is. -/
def number? : Value → Option Number.Binary64
  | .int i => some (Number.Binary64.ofInt i)
  | .real x => some x
  | _ => none

mutual

/-- A value with the fields of all objects in the order of their names. -/
def sorted : Value → Value
  | .list items => .list (sortedAll items)
  | .object fields => .object (sortedFields (sortedValues fields))
  | v => v

/-- Values with all fields in order. -/
def sortedAll : List Value → List Value
  | [] => []
  | v :: vs => sorted v :: sortedAll vs

/-- Fields whose values have all fields in order. -/
def sortedValues : List (String × Value) → List (String × Value)
  | [] => []
  | (k, v) :: rest => (k, sorted v) :: sortedValues rest

end

end ApiContract.Template
