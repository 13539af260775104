/-
What an operations document is read as, and what is rejected. A document is
accepted exactly when all its entries are spelled out, each operation,
parameter and response in it as an object or as a list on its own. So every
way of writing an operation is read as that operation, and an entry that is
not a way of writing any fails the whole document.

What is malformed fails for its places. A record that is read has something in
the place of each required field and no `null` where there has to be something
(`RecordShape.Filled`); of an object without a required field, of a list too
short or too long, and of a record with such a `null` that cannot be said
(`RecordShape.Malformed.not_filled`), whichever record it is.
-/
import ApiContract.Proofs.Operation.Spelling

namespace ApiContract

-- ================================================== statement vocabulary

/-- A document is written as a list, in which an absent operation is `null`,
or as an object with such a list under `operations`. -/
inductive Operations.Spelled (entries : List (Option Operation)) :
    Value → Prop
  | list {items : List Value}
      (h : List.Forall₂ (Spelling.orNull Operation.Spelled) entries items) :
      Spelled entries (.list items)
  | object {fields : List (String × Value)} {items : List Value}
      (field : Value.field? "operations" fields = some (.list items))
      (h : List.Forall₂ (Spelling.orNull Operation.Spelled) entries items) :
      Spelled entries (.object fields)

/-- What cannot be a record of a shape, whatever else stands in it. -/
inductive RecordShape.Malformed (shape : RecordShape) : Value → Prop
  | lacking {fields : List (String × Value)} {name : String}
      (required : name ∈ shape.names.take shape.required)
      (absent : Value.field? name fields = none) :
      shape.Malformed (.object fields)
  | short {items : List Value} (h : items.length < shape.required) :
      shape.Malformed (.list items)
  | long {items : List Value} (h : shape.names.length < items.length) :
      shape.Malformed (.list items)
  | null {v : Value} {places : String → Option Value} {name : String}
      (record : v.places? shape.names = some places)
      (field : name ∈ shape.names) (needed : name ∉ shape.nullable)
      (null : places name = some .null) :
      shape.Malformed v

/-- No record is read from the value. -/
def Reader.Rejects {α : Type} (read : Reader α) (v : Value) : Prop :=
  ∃ e, read v = .error e

/-- The value is no operations document. -/
def Operations.Rejected (v : Value) : Prop := ∃ e, ofValue v = .error e

/-- A parameter or a response of what may be an operation is none. -/
inductive Operation.HasRejectedPart (v : Value) : Prop
  | parameter {places : String → Option Value} {items : List Value}
      {part : Value} (record : v.places? shape.names = some places)
      (field : places "parameters" = some (.list items))
      (mem : part ∈ items) (rejected : Reader.Rejects Parameter.read part)
  | response {places : String → Option Value} {items : List Value}
      {part : Value} (record : v.places? shape.names = some places)
      (field : places "responses" = some (.list items))
      (mem : part ∈ items) (rejected : Reader.Rejects Response.read part)

-- =========================================================== rejections

/-- What is never accepted is rejected, and the other way round. -/
theorem Reader.rejects_iff {α : Type} {read : Reader α} {v : Value} :
    Rejects read v ↔ ∀ a, read v ≠ .ok a := by
  unfold Rejects
  cases read v <;> simp

namespace Spelling

variable {α : Type} {w : Spelling α} {place : Option Value} {a : α}

theorem Given.ne_none (h : w.Given a place) : place ≠ none := by
  rintro rfl
  exact h

theorem Given.ne_null (h : w.Given a place) (hnull : ¬ w a .null) :
    place ≠ some .null := by
  rintro rfl
  exact hnull h

theorem GivenOr.ne_null {default : α} (h : w.GivenOr default a place)
    (hnull : ¬ w a .null) : place ≠ some .null := by
  rintro rfl
  exact hnull h

theorem text_ne_null (s : String) : ¬ text s .null := fun h => by cases h

theorem list_ne_null (as : List α) : ¬ w.list as .null :=
  fun ⟨_, h, _⟩ => by cases h

end Spelling

theorem Method.not_spelled_null (m : Method) : ¬ m.Spelled .null :=
  fun ⟨_, h, _⟩ => by cases h

theorem Location.not_spelled_null (l : Location) : ¬ l.Spelled .null :=
  fun ⟨_, h, _⟩ => by cases h

theorem Response.not_statusSpelled_null (status : String) :
    ¬ StatusSpelled status .null := by
  rintro (h | ⟨_, _, h, _⟩) <;> cases h

theorem Operation.not_spelled_null (op : Operation) : ¬ op.Spelled .null :=
  fun ⟨_, h, _⟩ => by cases h

/-- The places hold what a record of the shape cannot be without. -/
structure RecordShape.Filled (shape : RecordShape)
    (places : String → Option Value) : Prop where
  required : ∀ name ∈ shape.names.take shape.required, places name ≠ none
  needed : ∀ name ∈ shape.names, name ∉ shape.nullable →
    places name ≠ some .null

/-- The places of what is malformed do not. -/
theorem RecordShape.Malformed.not_filled {shape : RecordShape} {v : Value}
    (h : shape.Malformed v) {places : String → Option Value}
    (hplaces : v.places? shape.names = some places) :
    ¬ shape.Filled places := by
  rintro ⟨hrequired, hneeded⟩
  cases h with
  | lacking required absent =>
      cases hplaces
      exact hrequired _ required absent
  | @short items hshort =>
      -- the first name without an item belongs to a required field
      have hlt : items.length < shape.names.length :=
        Nat.lt_of_lt_of_le hshort shape.required_le
      have hplace : places shape.names[items.length] = none := by
        rw [Value.places?, if_pos (Nat.le_of_lt hlt)] at hplaces
        cases hplaces
        show items[shape.names.idxOf shape.names[items.length]]? = none
        rw [shape.nodup.idxOf_getElem]
        exact List.getElem?_eq_none (Nat.le_refl _)
      refine hrequired _ ?_ hplace
      exact List.mem_take_iff_getElem.2
        ⟨items.length, Nat.lt_min.2 ⟨hshort, hlt⟩, rfl⟩
  | long hlong =>
      rw [Value.places?, if_neg (Nat.not_le.2 hlong)] at hplaces
      cases hplaces
  | null record field needed null =>
      obtain rfl := Option.some.inj (record.symm.trans hplaces)
      exact hneeded _ field needed null

/-- Where a reader reads a record with all it cannot be without from its
places, it rejects what is malformed. -/
theorem RecordShape.Malformed.rejects {shape : RecordShape} {v : Value}
    (h : shape.Malformed v) {α : Type} {read : Reader α}
    {InPlaces : α → (String → Option Value) → Prop}
    (hread : Reader.Exact read fun a v => ∃ places,
      v.places? shape.names = some places ∧ InPlaces a places)
    (hfilled : ∀ a places, InPlaces a places → shape.Filled places) :
    Reader.Rejects read v := by
  refine Reader.rejects_iff.2 fun a ha => ?_
  obtain ⟨places, hplaces, hin⟩ := (hread v a).1 ha
  exact h.not_filled hplaces (hfilled a places hin)

theorem Parameter.InPlaces.filled {p : Parameter}
    {places : String → Option Value} (h : p.InPlaces places) :
    shape.Filled places where
  required := by
    simp only [shape, List.take_succ_cons, List.take_zero,
      List.forall_mem_cons, List.not_mem_nil, false_implies, implies_true,
      and_true]
    exact ⟨h.name.ne_none, h.typeText.ne_none, h.location.ne_none⟩
  needed := by
    simp only [shape, List.forall_mem_cons, List.not_mem_nil, false_implies,
      implies_true, and_true]
    exact ⟨fun _ => h.name.ne_null (Spelling.text_ne_null _),
      fun _ => h.typeText.ne_null (Spelling.text_ne_null _),
      fun _ => h.location.ne_null (Location.not_spelled_null _),
      fun h => absurd (List.mem_singleton.2 rfl) h⟩

theorem Response.InPlaces.filled {r : Response}
    {places : String → Option Value} (h : r.InPlaces places) :
    shape.Filled places where
  required := by
    simp only [shape, List.take_succ_cons, List.take_zero,
      List.forall_mem_cons, List.not_mem_nil, false_implies, implies_true,
      and_true]
    exact ⟨h.status.ne_none, h.payload.ne_none⟩
  needed := by
    simp only [shape, List.forall_mem_cons, List.not_mem_nil, false_implies,
      implies_true, and_true]
    exact ⟨fun _ => h.status.ne_null (not_statusSpelled_null _),
      fun _ => h.payload.ne_null (Spelling.text_ne_null _),
      fun _ => h.headers.ne_null (Spelling.list_ne_null _)⟩

theorem Operation.InPlaces.filled {op : Operation}
    {places : String → Option Value} (h : op.InPlaces places) :
    shape.Filled places where
  required := by
    simp only [shape, List.take_succ_cons, List.take_zero,
      List.forall_mem_cons, List.not_mem_nil, false_implies, implies_true,
      and_true]
    exact ⟨h.method.ne_none, h.id.ne_none⟩
  needed := by
    simp only [shape, List.forall_mem_cons, List.not_mem_nil, false_implies,
      implies_true, and_true]
    exact ⟨fun _ => h.method.ne_null (Method.not_spelled_null _),
      fun _ => h.id.ne_null (Spelling.text_ne_null _),
      fun _ => h.parameters.ne_null (Spelling.list_ne_null _),
      fun _ => h.responses.ne_null (Spelling.list_ne_null _),
      fun _ => h.headers.ne_null (Spelling.list_ne_null _),
      fun _ => h.importedTypes.ne_null (Spelling.list_ne_null _),
      fun _ => h.path.ne_null (Spelling.text_ne_null _),
      fun h => absurd (List.mem_cons_self) h,
      fun h => absurd (List.mem_cons_of_mem _ List.mem_cons_self) h⟩

-- =========================================================== documents

namespace Operations

theorem ofValue_list_eq_ok_iff {items : List Value}
    {entries : List (Option Operation)} : ofValue (.list items) = .ok entries
      ↔ List.Forall₂ (Spelling.orNull Operation.Spelled) entries items := by
  rw [← Reader.items_eq_ok_iff
    (Operation.exact_read.orNull Operation.not_spelled_null)]
  exact mapError_eq_ok

/-- A document is read from exactly what it is written as. -/
theorem ofValue_eq_ok_iff {v : Value} {entries : List (Option Operation)} :
    ofValue v = .ok entries ↔ Spelled entries v := by
  by_cases hlist : HoldsList v
  · cases v with
    | list items =>
        rw [ofValue_list_eq_ok_iff]
        constructor
        · exact .list
        · intro h
          obtain ⟨h⟩ := h
          exact h
    | object fields =>
        obtain ⟨items, hfield⟩ := hlist
        rw [ofValue_object hfield, ofValue_list_eq_ok_iff]
        constructor
        · exact .object hfield
        · intro h
          obtain _ | ⟨hfield', h⟩ := h
          cases hfield.symm.trans hfield'
          exact h
    | _ => exact hlist.elim
  · obtain ⟨e, he⟩ := ofValue_of_not_holdsList hlist
    rw [he]
    refine iff_of_false (fun h => by cases h) fun h => ?_
    cases h with
    | list => exact hlist trivial
    | object hfield => exact hlist ⟨_, hfield⟩

theorem rejected_iff {v : Value} :
    Rejected v ↔ ∀ entries, ¬ Spelled entries v := by
  simp only [← ofValue_eq_ok_iff]
  unfold Rejected
  cases ofValue v <;> simp

end Operations

/-- In a list of spellings each item spells something out. -/
theorem exists_spelled_of_mem {α : Type} {w : Spelling α} {as : List α}
    {vs : List Value} (h : List.Forall₂ w as vs) {v : Value} (hv : v ∈ vs) :
    ∃ a, w a v := by
  induction h with
  | nil => cases hv
  | cons ha _ ih =>
      cases hv with
      | head => exact ⟨_, ha⟩
      | tail _ hv => exact ih hv

/-- A list is no spelling when one of its items is rejected. -/
theorem not_given_list_of_rejects {α : Type} {read : Reader α}
    {w : Spelling α} (hread : Reader.Exact read w) {as default : List α}
    {items : List Value} {part : Value} (hmem : part ∈ items)
    (hrejected : Reader.Rejects read part) :
    ¬ w.list.GivenOr default as (some (.list items)) := by
  rintro ⟨_, ⟨⟩, h⟩
  obtain ⟨a, ha⟩ := exists_spelled_of_mem h hmem
  exact Reader.rejects_iff.1 hrejected a ((hread part a).2 ha)

/-- An operation is rejected for one of its parts. -/
theorem Operation.HasRejectedPart.rejects {v : Value}
    (h : HasRejectedPart v) : Reader.Rejects Operation.read v := by
  refine Reader.rejects_iff.2 fun op hop => ?_
  obtain ⟨places, hplaces, hin⟩ := (exact_read v op).1 hop
  cases h with
  | parameter record field mem rejected =>
      obtain rfl := Option.some.inj (record.symm.trans hplaces)
      exact not_given_list_of_rejects Parameter.exact_read mem rejected
        (field ▸ hin.parameters)
  | response record field mem rejected =>
      obtain rfl := Option.some.inj (record.symm.trans hplaces)
      exact not_given_list_of_rejects Response.exact_read mem rejected
        (field ▸ hin.responses)

/-- Entries are not spelled out by items of which one is rejected. -/
theorem not_forall₂_of_rejects {entries : List (Option Operation)}
    {items : List Value} {v : Value} (hmem : v ∈ items) (hnull : v ≠ .null)
    (hrejected : Reader.Rejects Operation.read v) :
    ¬ List.Forall₂ (Spelling.orNull Operation.Spelled) entries items := by
  intro h
  obtain ⟨op | op, hop⟩ := exists_spelled_of_mem h hmem
  · exact hnull hop
  · exact Reader.rejects_iff.1 hrejected op ((Operation.exact_read v op).2 hop)

/-- A document is read as some entries exactly when it spells them out, each
operation, parameter and response in it as an object or as a list on its own.
What is malformed at any of the three levels is rejected there, an operation
is rejected for a part that is, and a whole document for an entry that is. -/
theorem Operations.decoding_exact :
    (∀ (v : Value) (entries : List (Option Operation)),
      ofValue v = .ok entries ↔ Spelled entries v)
    ∧ (∀ v, Parameter.shape.Malformed v → Reader.Rejects Parameter.read v)
    ∧ (∀ v, Response.shape.Malformed v → Reader.Rejects Response.read v)
    ∧ (∀ v, Operation.shape.Malformed v → Reader.Rejects Operation.read v)
    ∧ (∀ v, Operation.HasRejectedPart v → Reader.Rejects Operation.read v)
    ∧ ∀ (items : List Value) (v : Value), v ∈ items → v ≠ .null →
      Reader.Rejects Operation.read v →
        Rejected (.list items)
          ∧ ∀ fields, Value.field? "operations" fields = some (.list items) →
            Rejected (.object fields) := by
  refine ⟨fun v entries => ofValue_eq_ok_iff,
    fun v h => h.rejects Parameter.exact_read fun _ _ => (·.filled),
    fun v h => h.rejects Response.exact_read fun _ _ => (·.filled),
    fun v h => h.rejects Operation.exact_read fun _ _ => (·.filled),
    fun v h => h.rejects, ?_⟩
  intro items v hmem hnull hrejected
  constructor
  · refine rejected_iff.2 fun entries h => ?_
    obtain ⟨h⟩ := h
    exact not_forall₂_of_rejects hmem hnull hrejected h
  · intro fields hfield
    refine rejected_iff.2 fun entries h => ?_
    obtain _ | ⟨hfield', h⟩ := h
    cases hfield.symm.trans hfield'
    exact not_forall₂_of_rejects hmem hnull hrejected h

/-- A parameter as an object, its fields in no order and one of them
unknown. -/
def Parameter.looseValue : Value :=
  .object [("in", .text "Header"), ("x-order", .int 3),
    ("type", .text "string"), ("name", .text "trace?")]

/-- A response as a list, its status as a number. -/
def Response.terseValue : Value := .list [.int 404, .text "Error"]

/-- An operation as a list with such parts, its trailing fields left out. -/
def Operation.terseValue : Value :=
  .list [.text "GET", .text "getThing", .list [Parameter.looseValue],
    .list [Response.terseValue]]

/-- What it stands for. -/
def Operation.terse : Operation where
  method := .get
  id := "getThing"
  parameters := [⟨"trace?", "string", .header, none⟩]
  responses := [⟨"404", "Error", []⟩]

theorem Operation.terse_spelled : terse.Spelled terseValue := by
  have hparameter : Parameter.Spelled ⟨"trace?", "string", .header, none⟩
      Parameter.looseValue :=
    ⟨_, rfl, rfl, rfl, ⟨_, rfl, by decide⟩, rfl⟩
  have hresponse : Response.Spelled ⟨"404", "Error", []⟩
      Response.terseValue :=
    ⟨_, rfl, .inr ⟨404, by decide, rfl, by decide⟩, rfl, rfl⟩
  exact ⟨_, rfl, ⟨_, rfl, by decide⟩, rfl,
    ⟨_, rfl, .cons hparameter .nil⟩, ⟨_, rfl, .cons hresponse .nil⟩,
    rfl, rfl, rfl, rfl, rfl⟩

/-- A parameter without its location. -/
def Parameter.shortValue : Value := .list [.text "id", .text "string"]

/-- A response with `null` for its headers. -/
def Response.nullValue : Value :=
  .object [("statusCode", .int 404), ("payloadType", .text "Error"),
    ("headerNames", .null)]

/-- An operation without its id. -/
def Operation.namelessValue : Value := .object [("method", .text "GET")]

/-- An operation with a parameter that is none. -/
def Operation.brokenValue : Value :=
  .list [.text "GET", .text "getThing", .list [Parameter.shortValue]]

/-- The one is read as what it stands for, next to an absent operation; the
others are rejected, and so is a document that has one of them behind a good
operation. -/
theorem Operations.terse_decoding :
    ofValue (.object [("version", .int 2),
        ("operations", .list [.null, Operation.terseValue])])
      = .ok [none, some .terse]
    ∧ Reader.Rejects Parameter.read Parameter.shortValue
    ∧ Reader.Rejects Response.read Response.nullValue
    ∧ Reader.Rejects Operation.read Operation.namelessValue
    ∧ Reader.Rejects Operation.read Operation.brokenValue
    ∧ Rejected (.list [Operation.terseValue, Operation.brokenValue]) := by
  obtain ⟨hread, hparameter, hresponse, hoperation, hpart, hentry⟩ :=
    decoding_exact
  have hspelled : Spelled [none, some .terse] (.object [("version", .int 2),
      ("operations", .list [.null, Operation.terseValue])]) :=
    .object rfl (.cons rfl (.cons Operation.terse_spelled .nil))
  have hshort : Parameter.shape.Malformed Parameter.shortValue :=
    .short (by decide)
  have hnull : Response.shape.Malformed Response.nullValue := by
    have hfield : "headerNames" ∈ Response.shape.names := by decide
    have hneeded : "headerNames" ∉ Response.shape.nullable := by decide
    exact .null rfl hfield hneeded rfl
  have hlacking : Operation.shape.Malformed Operation.namelessValue := by
    have hrequired : "operationId"
        ∈ Operation.shape.names.take Operation.shape.required := by decide
    exact .lacking hrequired rfl
  have hbroken : Operation.HasRejectedPart Operation.brokenValue :=
    .parameter rfl rfl List.mem_cons_self (hparameter _ hshort)
  have hmem : Operation.brokenValue
      ∈ [Operation.terseValue, Operation.brokenValue] :=
    List.mem_cons_of_mem _ List.mem_cons_self
  exact ⟨(hread _ _).2 hspelled, hparameter _ hshort, hresponse _ hnull,
    hoperation _ hlacking, hpart _ hbroken,
    (hentry _ _ hmem (by intro h; cases h) (hpart _ hbroken)).1⟩

end ApiContract
