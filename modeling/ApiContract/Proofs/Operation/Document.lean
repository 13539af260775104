/-
Reading an operations document undoes writing one. Each record is read back
from the object that it is written as, and each reader of a part undoes its
writer: texts, lists of what can be read back, methods and locations by their
names. What is left out for being absent is read as absent, since its key is
not there to be found.

The fields of an object are looked up one by one, so for each record it is
enough to say what stands under each name; reading then meets no error on its
way (`Parameter.read_toValue`, `Response.read_toValue`,
`Operation.read_toValue`).
-/
import ApiContract.Operation.Source
import ApiContract.Proofs.Operation.Rules

namespace ApiContract

-- ================================================== statement vocabulary

/-- The names of the fields of an object, in order. -/
def Value.names? : Value → Option (List String)
  | .object fields => some (fields.map Prod.fst)
  | _ => none

/-- The document is a list, or an object with a list under `operations`. -/
def Operations.HoldsList : Value → Prop
  | .list _ => True
  | .object fields =>
    ∃ items, Value.field? "operations" fields = some (.list items)
  | _ => False

/-- A document as its entries are written; there is none for what is no
operations document. -/
def Operations.normalize (v : Value) : Except DocumentError Value :=
  (ofValue v).map toValue

/-- The names of the fields that a parameter is written with. -/
def Parameter.writtenNames (p : Parameter) : List String :=
  ["name", "type", "in"]
    ++ if p.headerName.isSome then ["headerName"] else []

/-- The names of the fields that an operation is written with. -/
def Operation.writtenNames (op : Operation) : List String :=
  ["method", "operationId", "parameters", "responses", "headers",
      "importedTypes", "path"]
    ++ (if op.consumes.isSome then ["consumes"] else [])
    ++ if op.produces.isSome then ["produces"] else []

-- ================================================================ parts

namespace Reader

variable {α : Type} {read : Reader α}

/-- A field is read as what its value is read as. -/
theorem field?_eq {fields : List (String × Value)} {name : String} {v : Value}
    {a : α} (hfield : Value.field? name fields = some v)
    (hread : read v = .ok a) : field? fields name read = .ok (some a) := by
  unfold field?
  rw [hfield]
  show (read v).map some = _
  rw [hread]
  rfl

/-- Items are read back when each of them is. -/
theorem items_map {write : α → Value} (as : List α)
    (h : ∀ a ∈ as, read (write a) = .ok a) :
    items read (as.map write) = .ok as := by
  induction as with
  | nil => rfl
  | cons a rest ih =>
      obtain ⟨ha, hrest⟩ := List.forall_mem_cons.1 h
      rw [List.map_cons]
      unfold items
      rw [ha, ih hrest]
      rfl

theorem list_map {write : α → Value} (as : List α)
    (h : ∀ a ∈ as, read (write a) = .ok a) :
    list read (.list (as.map write)) = .ok as :=
  items_map as h

theorem list_texts (texts : List String) :
    list text (.list (texts.map .text)) = .ok texts :=
  list_map texts fun _ _ => rfl

end Reader

-- ============================================================== records

/-- A method is read by the name that it is written with. -/
theorem Method.read_name (m : Method) : Method.read (.text m.name) = .ok m := by
  cases m <;> rfl

/-- A location is read by the name that it is written with. -/
theorem Location.read_name (l : Location) :
    Location.read (.text l.name) = .ok l := by
  cases l <;> rfl

theorem Response.read_toValue (r : Response) :
    Response.read r.toValue = .ok r := by
  show Response.ofFields _ = _
  unfold ofFields
  rw [Reader.field?_eq rfl (Reader.list_texts r.headers)]
  rfl

theorem Parameter.read_toValue (p : Parameter) :
    Parameter.read p.toValue = .ok p := by
  show Parameter.ofFields _ = _
  obtain ⟨name, typeText, location, headerName⟩ := p
  cases headerName with
  | none =>
      unfold ofFields
      rw [Reader.field?_eq rfl location.read_name]
      rfl
  | some header =>
      unfold ofFields
      rw [Reader.field?_eq rfl location.read_name]
      rfl

theorem Operation.read_toValue (op : Operation) :
    Operation.read op.toValue = .ok op := by
  show Operation.ofFields _ = _
  obtain ⟨method, id, parameters, responses, headers, importedTypes, path,
    consumes, produces⟩ := op
  have hparameters : Reader.list Parameter.read
      (.list (parameters.map Parameter.toValue)) = .ok parameters :=
    Reader.list_map parameters fun p _ => p.read_toValue
  have hresponses : Reader.list Response.read
      (.list (responses.map Response.toValue)) = .ok responses :=
    Reader.list_map responses fun r _ => r.read_toValue
  -- the keys at the end of the object depend on what is absent
  cases consumes <;> cases produces <;>
  · unfold ofFields
    rw [Reader.field?_eq rfl (Reader.list_texts headers),
      Reader.field?_eq rfl (Reader.list_texts importedTypes),
      Reader.field?_eq rfl method.read_name,
      Reader.field?_eq rfl hparameters,
      Reader.field?_eq rfl hresponses]
    rfl

-- ============================================================ documents

namespace Operations

theorem ofValue_toValue (entries : List (Option Operation)) :
    ofValue (toValue entries) = .ok entries := by
  have hitems : Reader.list (.orNull Operation.read) (toValue entries)
      = .ok entries := by
    refine Reader.list_map entries fun entry _ => ?_
    cases entry with
    | none => rfl
    | some op =>
        show (Operation.read op.toValue).map some = _
        rw [op.read_toValue]
        rfl
  show (Reader.list (.orNull Operation.read) (toValue entries)).mapError _ = _
  rw [hitems]
  rfl

/-- Under `operations` a list is read as it is by itself, whatever the other
fields are. -/
theorem ofValue_object {fields : List (String × Value)} {items : List Value}
    (h : Value.field? "operations" fields = some (.list items)) :
    ofValue (.object fields) = ofValue (.list items) := by
  unfold ofValue
  dsimp only
  rw [h]

/-- What is no list is no list of entries. -/
theorem readEntries_of_no_list {v : Value} (h : ∀ items, v ≠ .list items) :
    readEntries v
      = .error (.mismatch (.wrongType v.found "a sequence")) := by
  cases v with
  | list items => exact absurd rfl (h items)
  | _ => rfl

/-- A document without a list is refused, and the message says of what. -/
theorem ofValue_of_not_holdsList {v : Value} (h : ¬ HoldsList v) :
    ∃ e, ofValue v = .error e := by
  cases v with
  | list items => exact absurd trivial h
  | object fields =>
      unfold ofValue
      dsimp only
      cases hfield : Value.field? "operations" fields with
      | none => exact ⟨_, rfl⟩
      | some w =>
          refine ⟨_, readEntries_of_no_list fun items hw => h ⟨items, ?_⟩⟩
          rw [hfield, hw]
  | _ => exact ⟨_, rfl⟩

end Operations

/-- A message on a document begins by saying so. -/
theorem DocumentError.message_eq (e : DocumentError) :
    ∃ reason, e.message = "Invalid operations document: " ++ reason := by
  cases e with
  | noOperations => exact ⟨"missing `operations` key", by decide⟩
  | notADocument v =>
      refine ⟨"expected a list or an object, found " ++ Json.print v, ?_⟩
      rw [← String.append_assoc]
      exact congrArg (· ++ Json.print v) (by decide)
  | mismatch m => exact ⟨m.message, rfl⟩

theorem LoadError.message_document (e : DocumentError) : ∃ reason,
    (LoadError.document e).message
      = "Operation loading error: Invalid operations document: " ++ reason := by
  obtain ⟨reason, hreason⟩ := e.message_eq
  refine ⟨reason, ?_⟩
  show "Operation loading error: " ++ e.message = _
  rw [hreason, ← String.append_assoc]
  exact congrArg (· ++ reason) (by decide)

theorem Parameter.names?_toValue (p : Parameter) :
    p.toValue.names? = some p.writtenNames := by
  obtain ⟨name, typeText, location, headerName⟩ := p
  cases headerName <;> rfl

theorem Operation.names?_toValue (op : Operation) :
    op.toValue.names? = some op.writtenNames := by
  obtain ⟨method, id, parameters, responses, headers, importedTypes, path,
    consumes, produces⟩ := op
  cases consumes <;> cases produces <;> rfl

namespace Operations

/-- Writing entries as a document and reading it gives the entries back, by
itself or under `operations`; so normalizing is idempotent. A document
without a list is refused. What is absent is left out of the written form. -/
theorem document_roundtrip :
    (∀ entries, ofValue (toValue entries) = .ok entries)
      ∧ (∀ entries fields,
        Value.field? "operations" fields = some (toValue entries) →
          ofValue (.object fields) = .ok entries)
      ∧ (∀ v w, normalize v = .ok w → normalize w = .ok w)
      ∧ (∀ v, ¬ HoldsList v → ∃ e, ofValue v = .error e ∧ ∃ reason,
        (LoadError.document e).message
          = "Operation loading error: Invalid operations document: "
            ++ reason)
      ∧ (∀ op : Operation, op.toValue.names? = some op.writtenNames)
      ∧ ∀ p : Parameter, p.toValue.names? = some p.writtenNames := by
  refine ⟨ofValue_toValue, fun entries fields h => ?_, fun v w h => ?_,
    fun v h => ?_, Operation.names?_toValue, Parameter.names?_toValue⟩
  · rw [ofValue_object h]
    exact ofValue_toValue entries
  · unfold normalize at h ⊢
    cases hv : ofValue v with
    | error e =>
        rw [hv] at h
        cases h
    | ok entries =>
        rw [hv] at h
        cases h
        rw [ofValue_toValue]
        rfl
  · obtain ⟨e, he⟩ := ofValue_of_not_holdsList h
    exact ⟨e, he, LoadError.message_document e⟩

/-- A document with a list under the later of two keys of one name, with a
numeric status, a method in capitals and an unknown key. -/
def irregular : Value :=
  .object [("operations", .null), ("title", .text "things"),
    ("operations", .list [.null,
      .object [("method", .text "GET"), ("operationId", .text "getThing"),
        ("tags", .list []),
        ("responses", .list [.list [.int 204, .text "undefined"]])]])]

theorem irregular_roundtrip :
    ofValue (.object [("operations", .null),
        ("operations", toValue [some Operation.tangled, none])])
        = .ok [some Operation.tangled, none]
      ∧ (∃ w, normalize irregular = .ok w ∧ normalize w = .ok w)
      ∧ ∃ e, ofValue (.object [("operations", .object [])]) = .error e := by
  obtain ⟨-, hwrapped, hnormal, hrefused, -, -⟩ := document_roundtrip
  refine ⟨hwrapped _ _ rfl, ⟨_, rfl, hnormal irregular _ rfl⟩, ?_⟩
  obtain ⟨e, he, -⟩ := hrefused (.object [("operations", .object [])]) (by
    rintro ⟨items, hitems⟩
    cases hitems)
  exact ⟨e, he⟩

end Operations

end ApiContract
