/-
The values that documents hold. Whole numbers and binary64 numbers are kept
apart, as a status may be the one and not the other. An object keeps its
fields as they were written; `field?` says which of several fields of one
name counts: the last.
-/
import ApiContract.Number.Shortest

namespace ApiContract

/-- A value of a document. -/
inductive Value where
  | null
  | bool (b : Bool)
  | int (i : Int)
  | real (x : Number.Binary64)
  | text (s : String)
  | list (items : List Value)
  | object (fields : List (String × Value))
  deriving Repr, Inhabited

namespace Value

/-- The value of the last field of a name. -/
def field? (name : String) : List (String × Value) → Option Value
  | [] => none
  | (k, v) :: rest =>
    match field? name rest with
    | some w => some w
    | none => if k = name then some v else none

@[simp] theorem field?_nil (name : String) : field? name [] = none := rfl

/-- A field behind all others decides. -/
theorem field?_append (name : String) (fs gs : List (String × Value)) :
    field? name (fs ++ gs) = (field? name gs).or (field? name fs) := by
  induction fs with
  | nil => simp
  | cons f fs ih =>
    obtain ⟨k, v⟩ := f
    simp only [List.cons_append, field?, ih]
    cases field? name gs <;> simp

end Value

end ApiContract
