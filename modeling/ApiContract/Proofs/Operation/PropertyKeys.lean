/-
The keys of the object type for the parameters. A key stands bare or as a
literal, and is read back from the text of its property (`key?`); whatever the
parameter is, what is read is its name without the optional mark. So two
properties have one key exactly when their parameters have one name, those
marks apart, and it does not matter where the parameters travel or where the
marks stand.

The rules compare the statuses of the responses, and no names. A further
parameter that meets an earlier one in its key changes nothing for them
(`check_withParameter`), and the object type has that key twice.
-/
import ApiContract.Proofs.Operation.RequestType

namespace ApiContract

open Text Parse

-- ================================================== statement vocabulary

/-- The key of the property with this text, decoded if it is a literal. -/
def key? (property : String) : Option String :=
  ((do word "readonly "; parseKey) property.toList).map Prod.fst

namespace Operation

/-- The keys that the object type for the parameters gives, in order. -/
def emittedKeys (op : Operation) : List (Option String) :=
  (op.parameters.map Parameter.property).map key?

/-- The operation with one more parameter. -/
def withParameter (op : Operation) (p : Parameter) : Operation :=
  { op with parameters := op.parameters ++ [p] }

end Operation

-- ================================================================== keys

/-- The key ends where the mark or the colon behind it begins. -/
theorem key?_property (p : Parameter) :
    key? p.property = some p.propertyName := by
  obtain ⟨key, mark, hproperty, hkey, -, hhead⟩ := p.property_parts
  have hrest : Leaves isIdentifierPart (mark ++ p.typeText).toList := by
    have hleaves := leaves_append hhead p.typeText []
    rwa [List.append_nil] at hleaves
  have hwhole : Recovers isIdentifierPart
      (do word "readonly "; parseKey) ("readonly " ++ key) p.propertyName :=
    .word_bind hkey
  unfold key?
  rw [hproperty, ← String.append_assoc, String.toList_append, hwhole _ hrest]
  rfl

namespace Operation

theorem emittedKeys_eq (op : Operation) :
    op.emittedKeys = op.parameters.map fun p => some p.propertyName := by
  unfold emittedKeys
  rw [List.map_map]
  exact List.map_congr_left fun p _ => key?_property p

theorem emittedKeys_nodup_iff_pairwise (op : Operation) :
    op.emittedKeys.Nodup
      ↔ op.parameters.Pairwise fun p q => p.propertyName ≠ q.propertyName := by
  rw [emittedKeys_eq, List.Nodup, List.pairwise_map]
  simp only [ne_eq, Option.some.injEq]

-- ================================================================= rules

variable {op : Operation} {p q : Parameter}

/-- A parameter with the key of another one has a name if that one does. -/
theorem checkParameters_withParameter (hq : q ∈ op.parameters)
    (h : q.propertyName = p.propertyName) :
    (op.withParameter p).checkParameters = op.checkParameters := by
  have hany : (op.parameters ++ [p]).any (·.propertyName.isEmpty)
      = op.parameters.any (·.propertyName.isEmpty) := by
    rw [List.any_append, List.any_cons, List.any_nil, Bool.or_false, ← h]
    cases hempty : q.propertyName.isEmpty with
    | false => rw [Bool.or_false]
    | true => rw [Bool.or_true, List.any_eq_true.2 ⟨q, hq, hempty⟩]
  unfold checkParameters
  show (if (op.parameters ++ [p]).any (·.propertyName.isEmpty) then _ else _)
    = _
  rw [hany]
  rfl

theorem check_withParameter (hq : q ∈ op.parameters)
    (h : q.propertyName = p.propertyName) :
    (op.withParameter p).check = op.check := by
  unfold check
  rw [checkParameters_withParameter hq h]
  rfl

/-- For every operation, accepted or not, the keys of the object type differ
exactly when the names of its parameters do, the optional marks apart. The
rules do not call for it: with one more parameter that has the key of an
earlier one the check comes to the same, and the keys do not differ. -/
theorem emittedKeys_nodup_iff (op : Operation) :
    (op.emittedKeys.Nodup
      ↔ op.parameters.Pairwise fun p q => p.propertyName ≠ q.propertyName)
    ∧ ∀ p, (∃ q ∈ op.parameters, q.propertyName = p.propertyName) →
      (op.withParameter p).check = op.check
        ∧ ¬ (op.withParameter p).emittedKeys.Nodup := by
  refine ⟨op.emittedKeys_nodup_iff_pairwise, ?_⟩
  rintro p ⟨q, hq, hsame⟩
  refine ⟨check_withParameter hq hsame, fun hnodup => ?_⟩
  have hdiffer := (List.pairwise_append.1
    ((emittedKeys_nodup_iff_pairwise _).1 hnodup)).2.2
  exact hdiffer q hq p (List.mem_singleton_self p) hsame

/-- An operation with an id in its path and another one in its query. -/
def lookup : Operation where
  method := .get
  id := "getThing"
  parameters :=
    [⟨"id", "string", .path, none⟩, ⟨"id", "number", .query, none⟩]

/-- The operation is accepted, without a warning, and the object type has its
key twice. -/
theorem lookup_repeats_key : lookup.check = ⟨[], .ok ()⟩
    ∧ parametersType lookup.parameters
      = Text.braced " readonly id: string; readonly id: number "
    ∧ lookup.emittedKeys = [some "id", some "id"]
    ∧ ¬ lookup.emittedKeys.Nodup := by
  have hkeys : lookup.emittedKeys = [some "id", some "id"] := emittedKeys_eq _
  refine ⟨rfl, by decide +kernel, hkeys, ?_⟩
  rw [hkeys]
  decide

end Operation

end ApiContract
