/-
How an operation may be written in a document. A record stands there as an
object, whose fields are found by their names, or as the list of its fields in
declared order; either way each field has a place, and in the place stands
something or nothing (`Value.places?`). What has to stand there for the record
to be meant is said once for both ways (`Operation.InPlaces` and its like), so
a record may be an object in one part and a list in the next.

# Exactness

Each reader accepts exactly the spellings of what it reads (`Reader.Exact`).
For the parts of a record that is one lemma per kind of reader; for a record
the fields are gone through in the order in which they are read, by name
(`field?_eq_ok_iff`) or one behind another (`next?_bind_eq_ok_iff`), and both
say the same of the places (`Reader.exact_record`).
-/
import Mathlib.Data.List.Forall2
import Mathlib.Data.Option.Basic
import ApiContract.Proofs.Notice
import ApiContract.Proofs.Operation.Document

namespace ApiContract

-- ================================================== statement vocabulary

/-- How something may be written as a value. -/
abbrev Spelling (α : Type) := α → Value → Prop

namespace Spelling

variable {α : Type}

/-- A text stands for itself. -/
def text : Spelling String := fun s v => v = .text s

/-- Nothing is written as `null`. -/
def orNull (w : Spelling α) : Spelling (Option α)
  | none, v => v = .null
  | some a, v => w a v

/-- A list of spellings, in order. -/
def list (w : Spelling α) : Spelling (List α) :=
  fun as v => ∃ vs, v = .list vs ∧ List.Forall₂ w as vs

/-- What stands in the place of a field that has to be there. -/
def Given (w : Spelling α) (a : α) : Option Value → Prop
  | some v => w a v
  | none => False

/-- What stands in the place of a field that may be left out when it has its
default. -/
def GivenOr (default : α) (w : Spelling α) (a : α) : Option Value → Prop
  | some v => w a v
  | none => a = default

end Spelling

/-- The fields of a record in declared order, how many of them have to be
there (the first ones), and for which of them `null` can stand. -/
structure RecordShape where
  names : List String
  required : Nat
  nullable : List String
  nodup : names.Nodup := by decide
  required_le : required ≤ names.length := by decide

/-- What stands in the place of each field when a value is taken for a record
with these fields: of an object the value under the name of the field, of a
list that is not too long the item in the position of the field. -/
def Value.places? (names : List String) :
    Value → Option (String → Option Value)
  | .object fields => some fun name => Value.field? name fields
  | .list items =>
    if items.length ≤ names.length then
      some fun name => items[names.idxOf name]?
    else none
  | _ => none

/-- A method is written as its name, in any case. -/
def Method.Spelled (m : Method) (v : Value) : Prop :=
  ∃ s, v = .text s ∧ Text.lower s = m.name

/-- So is a location. -/
def Location.Spelled (l : Location) (v : Value) : Prop :=
  ∃ s, v = .text s ∧ Text.lower s = l.name

/-- A status is written as a text, or as the number of which it is the
decimal text. -/
def Response.StatusSpelled (status : String) (v : Value) : Prop :=
  v = .text status
    ∨ ∃ n : Nat, n < Nat.pow 2 64 ∧ v = .int n ∧ status = Number.digits n

namespace Parameter

def shape : RecordShape where
  names := ["name", "type", "in", "headerName"]
  required := 3
  nullable := ["headerName"]

/-- The parameter is what stands in the places. -/
structure InPlaces (p : Parameter) (places : String → Option Value) :
    Prop where
  name : Spelling.text.Given p.name (places "name")
  typeText : Spelling.text.Given p.typeText (places "type")
  location : Spelling.Given Location.Spelled p.location (places "in")
  headerName : Spelling.text.orNull.GivenOr none p.headerName
    (places "headerName")

/-- A parameter is written as an object or as a list. -/
def Spelled (p : Parameter) (v : Value) : Prop :=
  ∃ places, v.places? shape.names = some places ∧ p.InPlaces places

end Parameter

namespace Response

def shape : RecordShape where
  names := ["statusCode", "payloadType", "headerNames"]
  required := 2
  nullable := []

/-- The response is what stands in the places. -/
structure InPlaces (r : Response) (places : String → Option Value) :
    Prop where
  status : Spelling.Given StatusSpelled r.status (places "statusCode")
  payload : Spelling.text.Given r.payload (places "payloadType")
  headers : Spelling.text.list.GivenOr [] r.headers (places "headerNames")

/-- A response is written as an object or as a list. -/
def Spelled (r : Response) (v : Value) : Prop :=
  ∃ places, v.places? shape.names = some places ∧ r.InPlaces places

end Response

namespace Operation

def shape : RecordShape where
  names := ["method", "operationId", "parameters", "responses", "headers",
    "importedTypes", "path", "consumes", "produces"]
  required := 2
  nullable := ["consumes", "produces"]

/-- The operation is what stands in the places. -/
structure InPlaces (op : Operation) (places : String → Option Value) :
    Prop where
  method : Spelling.Given Method.Spelled op.method (places "method")
  id : Spelling.text.Given op.id (places "operationId")
  parameters : (Spelling.list Parameter.Spelled).GivenOr [] op.parameters
    (places "parameters")
  responses : (Spelling.list Response.Spelled).GivenOr [] op.responses
    (places "responses")
  headers : Spelling.text.list.GivenOr [] op.headers (places "headers")
  importedTypes : Spelling.text.list.GivenOr [] op.importedTypes
    (places "importedTypes")
  path : Spelling.text.GivenOr "" op.path (places "path")
  consumes : Spelling.text.orNull.GivenOr none op.consumes (places "consumes")
  produces : Spelling.text.orNull.GivenOr none op.produces (places "produces")

/-- An operation is written as an object or as a list. -/
def Spelled (op : Operation) (v : Value) : Prop :=
  ∃ places, v.places? shape.names = some places ∧ op.InPlaces places

end Operation

-- ================================================================ parts

namespace Reader

variable {α : Type} {read : Reader α} {w : Spelling α}

/-- The reader accepts the spellings of what it reads, and nothing else. -/
def Exact (read : Reader α) (w : Spelling α) : Prop :=
  ∀ v a, read v = .ok a ↔ w a v

theorem exact_text : Exact text Spelling.text := by
  intro v s
  cases v with
  | text t =>
      show Except.ok t = .ok s ↔ Value.text t = .text s
      simp
  | _ => exact iff_of_false (fun h => by cases h) fun h => by cases h

theorem byName_text (ofText? : String → Option α)
    (refusal : String → Mismatch) (s : String) :
    byName ofText? refusal (.text s)
      = (ofText? s).elim (.error (refusal s)) .ok := by
  unfold byName
  simp only [text, bind, Except.bind]
  cases ofText? s <;> rfl

/-- What is looked up by a name in lower case is written as any text that has
the name for its lower case. -/
theorem exact_byName {ofText? : String → Option α} {name : α → String}
    (hofText : ∀ {s a}, ofText? s = some a ↔ Text.lower s = name a)
    (refusal : String → Mismatch) :
    Exact (byName ofText? refusal)
      fun a v => ∃ s, v = .text s ∧ Text.lower s = name a := by
  intro v a
  cases v with
  | text s =>
      rw [byName_text]
      simp only [Value.text.injEq, exists_eq_left', ← hofText]
      cases ofText? s <;> simp
  | _ => exact iff_of_false (fun h => by cases h) fun ⟨_, h, _⟩ => by cases h

/-- With `null` for nothing, which must not stand for something as well. -/
theorem Exact.orNull (h : Exact read w) (hnull : ∀ a, ¬ w a .null) :
    Exact (orNull read) w.orNull := by
  intro v o
  by_cases hv : v = .null
  · subst hv
    cases o with
    | none => exact iff_of_true rfl rfl
    | some a => exact iff_of_false (fun h => by cases h) (hnull a)
  · have hread : Reader.orNull read v = (read v).map some := by
      cases v with
      | null => exact absurd rfl hv
      | _ => rfl
    rw [hread, map_eq_ok]
    cases o with
    | none => exact iff_of_false (fun ⟨_, _, h⟩ => by cases h) hv
    | some a =>
        simp only [Option.some.injEq, exists_eq_right]
        exact h v a

theorem items_eq_ok_iff (h : Exact read w) {vs : List Value} :
    ∀ {as : List α}, items read vs = .ok as ↔ List.Forall₂ w as vs := by
  induction vs with
  | nil =>
      intro as
      rw [List.forall₂_nil_right_iff]
      constructor
      · intro h
        cases h
        rfl
      · rintro rfl
        rfl
  | cons v vs ih =>
      intro as
      unfold items
      rw [List.forall₂_cons_right_iff, bind_eq_ok]
      constructor
      · rintro ⟨a, hv, hrest⟩
        obtain ⟨rest, hvs, hrest⟩ := bind_eq_ok.1 hrest
        cases hrest
        exact ⟨a, rest, (h v a).1 hv, ih.1 hvs, rfl⟩
      · rintro ⟨a, rest, hv, hvs, rfl⟩
        refine ⟨a, (h v a).2 hv, ?_⟩
        rw [ih.2 hvs]
        rfl

theorem Exact.list (h : Exact read w) : Exact (list read) w.list := by
  intro v as
  cases v with
  | list vs =>
      show items read vs = .ok as ↔ ∃ vs', Value.list vs = .list vs' ∧ _
      simp only [Value.list.injEq, exists_eq_left']
      exact items_eq_ok_iff h
  | _ => exact iff_of_false (fun h => by cases h) fun ⟨_, h, _⟩ => by cases h

-- =============================================================== places

/-- A field of an object is read from its place. -/
theorem field?_eq_ok_iff (h : Exact read w) {fields : List (String × Value)}
    {name : String} {o : Option α} :
    field? fields name read = .ok o
      ↔ Option.Rel w o (Value.field? name fields) := by
  unfold field?
  cases Value.field? name fields with
  | none =>
      constructor
      · intro h
        cases h
        exact .none
      · rintro ⟨⟩
        rfl
  | some v =>
      dsimp only
      rw [map_eq_ok]
      constructor
      · rintro ⟨a, ha, rfl⟩
        exact .some ((h v a).1 ha)
      · rintro (⟨hw⟩ | _)
        exact ⟨_, (h v _).2 hw, rfl⟩

/-- So is the next item of a list, by its position, and reading goes on
behind it. -/
theorem next?_bind_eq_ok_iff {β : Type} (h : Exact read w)
    {items rest : List Value} {position : Nat}
    (hrest : rest = items.drop position)
    {f : Option α × List Value → Except Mismatch β} {b : β} :
    next? read rest >>= f = .ok b
      ↔ ∃ o, Option.Rel w o items[position]?
        ∧ f (o, items.drop (position + 1)) = .ok b := by
  rw [hrest, ← List.head?_drop, ← List.tail_drop]
  cases items.drop position with
  | nil =>
      constructor
      · intro hf
        exact ⟨none, .none, hf⟩
      · rintro ⟨_, ⟨⟩, hf⟩
        exact hf
  | cons v vs =>
      rw [bind_eq_ok]
      constructor
      · rintro ⟨pair, hnext, hf⟩
        obtain ⟨a, ha, rfl⟩ := map_eq_ok.1 hnext
        exact ⟨some a, .some ((h v a).1 ha), hf⟩
      · rintro ⟨_, ⟨hw⟩, hf⟩
        exact ⟨_, map_eq_ok.2 ⟨_, (h v _).2 hw, rfl⟩, hf⟩

/-- At the end of the fields nothing is left when there were no more items
than fields. -/
theorem end_eq_ok_iff {items : List Value} {position : Nat} {a b : α}
    {e : Mismatch} :
    (if (items.drop position).isEmpty then pure a else throw e :
        Except Mismatch α) = .ok b
      ↔ items.length ≤ position ∧ a = b := by
  rw [← List.drop_eq_nil_iff, ← List.isEmpty_iff]
  cases (items.drop position).isEmpty with
  | false => exact iff_of_false (fun h => by cases h) fun h => by cases h.1
  | true =>
      show Except.ok a = .ok b ↔ _
      simp

theorem require_eq_ok_iff {name : String} {o : Option α} {a : α} :
    require name o = .ok a ↔ o = some a := by
  cases o with
  | none => exact iff_of_false (fun h => by cases h) fun h => by cases h
  | some b =>
      show Except.ok b = .ok a ↔ _
      simp

/-- A record is read from its places, whichever way it is written. -/
theorem exact_record {names : List String}
    {InPlaces : α → (String → Option Value) → Prop}
    {recordName : String}
    {ofFields : List (String × Value) → Except Mismatch α}
    {ofItems : List Value → Except Mismatch α}
    (hobject : ∀ fields a, ofFields fields = .ok a
      ↔ InPlaces a fun name => Value.field? name fields)
    (hlist : ∀ items a, ofItems items = .ok a
      ↔ items.length ≤ names.length
        ∧ InPlaces a fun name => items[names.idxOf name]?) :
    Exact (record recordName ofFields ofItems) fun a v =>
      ∃ places, v.places? names = some places ∧ InPlaces a places := by
  intro v a
  cases v with
  | object fields =>
      show ofFields fields = .ok a
        ↔ ∃ places, some _ = some places ∧ InPlaces a places
      simp only [Option.some.injEq, exists_eq_left', hobject]
  | list items =>
      show ofItems items = .ok a
        ↔ ∃ places, (if items.length ≤ names.length then some _ else none)
          = some places ∧ InPlaces a places
      rw [hlist]
      split
      case isTrue hlength =>
        simp only [hlength, true_and, Option.some.injEq, exists_eq_left']
      case isFalse hlength =>
        exact iff_of_false (fun h => hlength h.1) fun ⟨_, h, _⟩ => by cases h
  | _ => exact iff_of_false (fun h => by cases h) fun ⟨_, h, _⟩ => by cases h

end Reader

namespace Spelling

variable {α : Type} {w : Spelling α} {place : Option Value} {a : α}

theorem given_iff : w.Given a place ↔ Option.Rel w (some a) place := by
  cases place with
  | none => exact iff_of_false id fun h => by cases h
  | some v =>
      refine ⟨fun h => .some h, ?_⟩
      rintro ⟨h⟩
      exact h

theorem givenOr_iff {default : α} :
    w.GivenOr default a place
      ↔ ∃ o, Option.Rel w o place ∧ o.getD default = a := by
  cases place with
  | none =>
      constructor
      · rintro rfl
        exact ⟨none, .none, rfl⟩
      · rintro ⟨o, ⟨⟩, rfl⟩
        rfl
  | some v =>
      constructor
      · intro h
        exact ⟨some a, .some h, rfl⟩
      · rintro ⟨o, ⟨h⟩, rfl⟩
        exact h

end Spelling

-- ============================================================== records

/-- Where each item is found by its name, a name finds the item of that
name. -/
theorem find?_name_eq_some_iff {α : Type} {all : List α} {name : α → String}
    (hall : ∀ a, all.find? (fun b => name b == name a) = some a) {s : String}
    {a : α} : all.find? (fun b => name b == s) = some a ↔ s = name a := by
  constructor
  · intro h
    exact (beq_iff_eq.1 (List.find?_some (p := fun b => name b == s) h)).symm
  · rintro rfl
    exact hall a

theorem Method.ofText?_eq_some_iff {s : String} {m : Method} :
    ofText? s = some m ↔ Text.lower s = m.name :=
  find?_name_eq_some_iff fun m => by cases m <;> rfl

theorem Location.ofText?_eq_some_iff {s : String} {l : Location} :
    ofText? s = some l ↔ Text.lower s = l.name :=
  find?_name_eq_some_iff fun l => by cases l <;> rfl

theorem Method.exact_read : Reader.Exact Method.read Method.Spelled :=
  Reader.exact_byName ofText?_eq_some_iff _

theorem Location.exact_read : Reader.Exact Location.read Location.Spelled :=
  Reader.exact_byName ofText?_eq_some_iff _

/-- The whole numbers that a width holds without a sign. -/
theorem Number.fitsUnsigned_iff {bits : Nat} {i : Int} : fitsUnsigned bits i
    ↔ ∃ n : Nat, n < Nat.pow 2 bits ∧ i = n := by
  rw [fitsUnsigned, span, Bool.and_eq_true, decide_eq_true_iff,
    decide_eq_true_iff]
  constructor
  · intro h
    exact ⟨i.toNat, by omega, by omega⟩
  · intro h
    obtain ⟨n, hn, rfl⟩ := h
    exact ⟨by omega, by omega⟩

theorem Response.exact_readStatus :
    Reader.Exact readStatus StatusSpelled := by
  intro v status
  cases v with
  | text s =>
      show Except.ok s = .ok status ↔ _
      simp [StatusSpelled]
  | int i =>
      show (if Number.fitsUnsigned 64 i then
        Except.ok (Number.digits i.toNat) else .error Mismatch.badStatus)
          = .ok status ↔ _
      split
      case isTrue hfits =>
        obtain ⟨n, hn, rfl⟩ := Number.fitsUnsigned_iff.1 hfits
        constructor
        · intro h
          cases h
          exact .inr ⟨n, hn, rfl, rfl⟩
        · rintro (h | ⟨m, -, h, rfl⟩)
          · cases h
          · rw [Value.int.inj h, Int.toNat_natCast]
      case isFalse hfits =>
        refine iff_of_false (fun h => by cases h) ?_
        rintro (h | ⟨n, hn, h, -⟩)
        · cases h
        · cases h
          exact hfits (Number.fitsUnsigned_iff.2 ⟨n, hn, rfl⟩)
  | _ =>
      refine iff_of_false (fun h => by cases h) ?_
      rintro (h | ⟨_, _, h, _⟩)
      · cases h
      · cases h

/-- A text that may be absent, with `null` for that. -/
theorem Reader.exact_orNull_text :
    Reader.Exact (.orNull Reader.text) Spelling.text.orNull :=
  exact_text.orNull fun _ h => by cases h

/-- Nothing at all is as good as nothing said. -/
theorem join_eq_getD {α : Type} (o : Option (Option α)) :
    o.join = o.getD none := by
  cases o <;> rfl

namespace Parameter

/-- What stands in the places, field by field, as far as something does. -/
theorem inPlaces_iff {p : Parameter} {places : String → Option Value} :
    p.InPlaces places ↔ ∃ name typeText location headerName,
      Option.Rel Spelling.text (some name) (places "name")
        ∧ Option.Rel Spelling.text (some typeText) (places "type")
        ∧ Option.Rel Location.Spelled (some location) (places "in")
        ∧ Option.Rel Spelling.text.orNull headerName (places "headerName")
        ∧ p = ⟨name, typeText, location, headerName.join⟩ := by
  constructor
  · rintro ⟨hname, htypeText, hlocation, hheaderName⟩
    rw [Spelling.given_iff] at hname htypeText hlocation
    obtain ⟨headerName, hheaderName, hdefault⟩ :=
      Spelling.givenOr_iff.1 hheaderName
    refine ⟨_, _, _, _, hname, htypeText, hlocation, hheaderName, ?_⟩
    rw [join_eq_getD, hdefault]
  · rintro ⟨name, typeText, location, headerName, hname, htypeText, hlocation,
      hheaderName, rfl⟩
    exact ⟨Spelling.given_iff.2 hname, Spelling.given_iff.2 htypeText,
      Spelling.given_iff.2 hlocation,
      Spelling.givenOr_iff.2 ⟨_, hheaderName, (join_eq_getD _).symm⟩⟩

theorem ofFields_eq_ok_iff {fields : List (String × Value)}
    {p : Parameter} : ofFields fields = .ok p
      ↔ p.InPlaces fun name => Value.field? name fields := by
  unfold ofFields
  simp only [bind_eq_ok, Reader.field?_eq_ok_iff Reader.exact_orNull_text,
    Reader.field?_eq_ok_iff Reader.exact_text,
    Reader.field?_eq_ok_iff Location.exact_read, Reader.require_eq_ok_iff,
    inPlaces_iff]
  constructor
  · rintro ⟨headerName, hheaderName, _, hlocation, _, hname, _, htypeText,
      name, rfl, typeText, rfl, location, rfl, h⟩
    cases h
    exact ⟨_, _, _, _, hname, htypeText, hlocation, hheaderName, rfl⟩
  · rintro ⟨name, typeText, location, headerName, hname, htypeText, hlocation,
      hheaderName, rfl⟩
    exact ⟨_, hheaderName, _, hlocation, _, hname, _, htypeText, _, rfl, _,
      rfl, _, rfl, rfl⟩

theorem ofItems_eq_ok_iff {items : List Value} {p : Parameter} :
    ofItems items = .ok p ↔ items.length ≤ shape.names.length
      ∧ p.InPlaces fun name => items[shape.names.idxOf name]? := by
  rw [inPlaces_iff]
  constructor
  · intro h
    obtain ⟨_ | name, hname, h⟩ := (Reader.next?_bind_eq_ok_iff
      Reader.exact_text List.drop_zero.symm).1 h
    · cases h
    obtain ⟨_ | typeText, htypeText, h⟩ := (Reader.next?_bind_eq_ok_iff
      Reader.exact_text rfl).1 h
    · cases h
    obtain ⟨_ | location, hlocation, h⟩ := (Reader.next?_bind_eq_ok_iff
      Location.exact_read rfl).1 h
    · cases h
    obtain ⟨headerName, hheaderName, h⟩ := (Reader.next?_bind_eq_ok_iff
      Reader.exact_orNull_text rfl).1 h
    obtain ⟨hlength, rfl⟩ := Reader.end_eq_ok_iff.1 h
    exact ⟨hlength, _, _, _, _, hname, htypeText, hlocation, hheaderName, rfl⟩
  · rintro ⟨hlength, name, typeText, location, headerName, hname, htypeText,
      hlocation, hheaderName, rfl⟩
    refine (Reader.next?_bind_eq_ok_iff Reader.exact_text
      List.drop_zero.symm).2 ⟨_, hname, ?_⟩
    refine (Reader.next?_bind_eq_ok_iff Reader.exact_text rfl).2
      ⟨_, htypeText, ?_⟩
    refine (Reader.next?_bind_eq_ok_iff Location.exact_read rfl).2
      ⟨_, hlocation, ?_⟩
    refine (Reader.next?_bind_eq_ok_iff Reader.exact_orNull_text rfl).2
      ⟨_, hheaderName, ?_⟩
    exact Reader.end_eq_ok_iff.2 ⟨hlength, rfl⟩

/-- A parameter is read from exactly what it is written as. -/
theorem exact_read : Reader.Exact read Spelled :=
  Reader.exact_record (fun _ _ => ofFields_eq_ok_iff)
    fun _ _ => ofItems_eq_ok_iff

end Parameter

namespace Response

/-- What stands in the places, field by field, as far as something does. -/
theorem inPlaces_iff {r : Response} {places : String → Option Value} :
    r.InPlaces places ↔ ∃ status payload headers,
      Option.Rel StatusSpelled (some status) (places "statusCode")
        ∧ Option.Rel Spelling.text (some payload) (places "payloadType")
        ∧ Option.Rel Spelling.text.list headers (places "headerNames")
        ∧ r = ⟨status, payload, headers.getD []⟩ := by
  constructor
  · rintro ⟨hstatus, hpayload, hheaders⟩
    rw [Spelling.given_iff] at hstatus hpayload
    obtain ⟨headers, hheaders, hdefault⟩ := Spelling.givenOr_iff.1 hheaders
    exact ⟨_, _, _, hstatus, hpayload, hheaders, by rw [hdefault]⟩
  · rintro ⟨status, payload, headers, hstatus, hpayload, hheaders, rfl⟩
    exact ⟨Spelling.given_iff.2 hstatus, Spelling.given_iff.2 hpayload,
      Spelling.givenOr_iff.2 ⟨_, hheaders, rfl⟩⟩

theorem ofFields_eq_ok_iff {fields : List (String × Value)} {r : Response} :
    ofFields fields = .ok r
      ↔ r.InPlaces fun name => Value.field? name fields := by
  unfold ofFields
  simp only [bind_eq_ok, Reader.field?_eq_ok_iff Reader.exact_text.list,
    Reader.field?_eq_ok_iff Reader.exact_text,
    Reader.field?_eq_ok_iff exact_readStatus, Reader.require_eq_ok_iff,
    inPlaces_iff]
  constructor
  · rintro ⟨headers, hheaders, _, hpayload, _, hstatus, status, rfl, payload,
      rfl, h⟩
    cases h
    exact ⟨_, _, _, hstatus, hpayload, hheaders, rfl⟩
  · rintro ⟨status, payload, headers, hstatus, hpayload, hheaders, rfl⟩
    exact ⟨_, hheaders, _, hpayload, _, hstatus, _, rfl, _, rfl, rfl⟩

theorem ofItems_eq_ok_iff {items : List Value} {r : Response} :
    ofItems items = .ok r ↔ items.length ≤ shape.names.length
      ∧ r.InPlaces fun name => items[shape.names.idxOf name]? := by
  rw [inPlaces_iff]
  constructor
  · intro h
    obtain ⟨_ | status, hstatus, h⟩ := (Reader.next?_bind_eq_ok_iff
      exact_readStatus List.drop_zero.symm).1 h
    · cases h
    obtain ⟨_ | payload, hpayload, h⟩ := (Reader.next?_bind_eq_ok_iff
      Reader.exact_text rfl).1 h
    · cases h
    obtain ⟨headers, hheaders, h⟩ := (Reader.next?_bind_eq_ok_iff
      Reader.exact_text.list rfl).1 h
    obtain ⟨hlength, rfl⟩ := Reader.end_eq_ok_iff.1 h
    exact ⟨hlength, _, _, _, hstatus, hpayload, hheaders, rfl⟩
  · rintro ⟨hlength, status, payload, headers, hstatus, hpayload, hheaders,
      rfl⟩
    refine (Reader.next?_bind_eq_ok_iff exact_readStatus
      List.drop_zero.symm).2 ⟨_, hstatus, ?_⟩
    refine (Reader.next?_bind_eq_ok_iff Reader.exact_text rfl).2
      ⟨_, hpayload, ?_⟩
    refine (Reader.next?_bind_eq_ok_iff Reader.exact_text.list rfl).2
      ⟨_, hheaders, ?_⟩
    exact Reader.end_eq_ok_iff.2 ⟨hlength, rfl⟩

/-- A response is read from exactly what it is written as. -/
theorem exact_read : Reader.Exact read Spelled :=
  Reader.exact_record (fun _ _ => ofFields_eq_ok_iff)
    fun _ _ => ofItems_eq_ok_iff

end Response

namespace Operation

/-- What stands in the places, field by field, as far as something does. -/
theorem inPlaces_iff {op : Operation} {places : String → Option Value} :
    op.InPlaces places ↔ ∃ method id parameters responses headers
      importedTypes path consumes produces,
      Option.Rel Method.Spelled (some method) (places "method")
        ∧ Option.Rel Spelling.text (some id) (places "operationId")
        ∧ Option.Rel (Spelling.list Parameter.Spelled) parameters
          (places "parameters")
        ∧ Option.Rel (Spelling.list Response.Spelled) responses
          (places "responses")
        ∧ Option.Rel Spelling.text.list headers (places "headers")
        ∧ Option.Rel Spelling.text.list importedTypes (places "importedTypes")
        ∧ Option.Rel Spelling.text path (places "path")
        ∧ Option.Rel Spelling.text.orNull consumes (places "consumes")
        ∧ Option.Rel Spelling.text.orNull produces (places "produces")
        ∧ op = ⟨method, id, parameters.getD [], responses.getD [],
          headers.getD [], importedTypes.getD [], path.getD "",
          consumes.join, produces.join⟩ := by
  simp only [join_eq_getD]
  constructor
  · rintro ⟨hmethod, hid, hparameters, hresponses, hheaders, himported, hpath,
      hconsumes, hproduces⟩
    rw [Spelling.given_iff] at hmethod hid
    obtain ⟨parameters, hparameters, hparametersD⟩ :=
      Spelling.givenOr_iff.1 hparameters
    obtain ⟨responses, hresponses, hresponsesD⟩ :=
      Spelling.givenOr_iff.1 hresponses
    obtain ⟨headers, hheaders, hheadersD⟩ := Spelling.givenOr_iff.1 hheaders
    obtain ⟨importedTypes, himported, himportedD⟩ :=
      Spelling.givenOr_iff.1 himported
    obtain ⟨path, hpath, hpathD⟩ := Spelling.givenOr_iff.1 hpath
    obtain ⟨consumes, hconsumes, hconsumesD⟩ :=
      Spelling.givenOr_iff.1 hconsumes
    obtain ⟨produces, hproduces, hproducesD⟩ :=
      Spelling.givenOr_iff.1 hproduces
    refine ⟨_, _, _, _, _, _, _, _, _, hmethod, hid, hparameters, hresponses,
      hheaders, himported, hpath, hconsumes, hproduces, ?_⟩
    rw [hparametersD, hresponsesD, hheadersD, himportedD, hpathD, hconsumesD,
      hproducesD]
  · rintro ⟨method, id, parameters, responses, headers, importedTypes, path,
      consumes, produces, hmethod, hid, hparameters, hresponses, hheaders,
      himported, hpath, hconsumes, hproduces, rfl⟩
    exact ⟨Spelling.given_iff.2 hmethod, Spelling.given_iff.2 hid,
      Spelling.givenOr_iff.2 ⟨_, hparameters, rfl⟩,
      Spelling.givenOr_iff.2 ⟨_, hresponses, rfl⟩,
      Spelling.givenOr_iff.2 ⟨_, hheaders, rfl⟩,
      Spelling.givenOr_iff.2 ⟨_, himported, rfl⟩,
      Spelling.givenOr_iff.2 ⟨_, hpath, rfl⟩,
      Spelling.givenOr_iff.2 ⟨_, hconsumes, rfl⟩,
      Spelling.givenOr_iff.2 ⟨_, hproduces, rfl⟩⟩

theorem ofFields_eq_ok_iff {fields : List (String × Value)} {op : Operation} :
    ofFields fields = .ok op
      ↔ op.InPlaces fun name => Value.field? name fields := by
  unfold ofFields
  simp only [bind_eq_ok, Reader.field?_eq_ok_iff Reader.exact_orNull_text,
    Reader.field?_eq_ok_iff Reader.exact_text,
    Reader.field?_eq_ok_iff Reader.exact_text.list,
    Reader.field?_eq_ok_iff Method.exact_read,
    Reader.field?_eq_ok_iff Parameter.exact_read.list,
    Reader.field?_eq_ok_iff Response.exact_read.list,
    Reader.require_eq_ok_iff, inPlaces_iff]
  constructor
  · rintro ⟨consumes, hconsumes, headers, hheaders, importedTypes, himported,
      _, hmethod, _, hid, parameters, hparameters, path, hpath, produces,
      hproduces, responses, hresponses, method, rfl, id, rfl, h⟩
    cases h
    exact ⟨_, _, _, _, _, _, _, _, _, hmethod, hid, hparameters, hresponses,
      hheaders, himported, hpath, hconsumes, hproduces, rfl⟩
  · rintro ⟨method, id, parameters, responses, headers, importedTypes, path,
      consumes, produces, hmethod, hid, hparameters, hresponses, hheaders,
      himported, hpath, hconsumes, hproduces, rfl⟩
    exact ⟨_, hconsumes, _, hheaders, _, himported, _, hmethod, _, hid, _,
      hparameters, _, hpath, _, hproduces, _, hresponses, _, rfl, _, rfl, rfl⟩

theorem ofItems_eq_ok_iff {items : List Value} {op : Operation} :
    ofItems items = .ok op ↔ items.length ≤ shape.names.length
      ∧ op.InPlaces fun name => items[shape.names.idxOf name]? := by
  rw [inPlaces_iff]
  constructor
  · intro h
    obtain ⟨_ | method, hmethod, h⟩ := (Reader.next?_bind_eq_ok_iff
      Method.exact_read List.drop_zero.symm).1 h
    · cases h
    obtain ⟨_ | id, hid, h⟩ := (Reader.next?_bind_eq_ok_iff
      Reader.exact_text rfl).1 h
    · cases h
    obtain ⟨parameters, hparameters, h⟩ := (Reader.next?_bind_eq_ok_iff
      Parameter.exact_read.list rfl).1 h
    obtain ⟨responses, hresponses, h⟩ := (Reader.next?_bind_eq_ok_iff
      Response.exact_read.list rfl).1 h
    obtain ⟨headers, hheaders, h⟩ := (Reader.next?_bind_eq_ok_iff
      Reader.exact_text.list rfl).1 h
    obtain ⟨importedTypes, himported, h⟩ := (Reader.next?_bind_eq_ok_iff
      Reader.exact_text.list rfl).1 h
    obtain ⟨path, hpath, h⟩ := (Reader.next?_bind_eq_ok_iff
      Reader.exact_text rfl).1 h
    obtain ⟨consumes, hconsumes, h⟩ := (Reader.next?_bind_eq_ok_iff
      Reader.exact_orNull_text rfl).1 h
    obtain ⟨produces, hproduces, h⟩ := (Reader.next?_bind_eq_ok_iff
      Reader.exact_orNull_text rfl).1 h
    obtain ⟨hlength, rfl⟩ := Reader.end_eq_ok_iff.1 h
    exact ⟨hlength, _, _, _, _, _, _, _, _, _, hmethod, hid, hparameters,
      hresponses, hheaders, himported, hpath, hconsumes, hproduces, rfl⟩
  · rintro ⟨hlength, method, id, parameters, responses, headers,
      importedTypes, path, consumes, produces, hmethod, hid, hparameters,
      hresponses, hheaders, himported, hpath, hconsumes, hproduces, rfl⟩
    refine (Reader.next?_bind_eq_ok_iff Method.exact_read
      List.drop_zero.symm).2 ⟨_, hmethod, ?_⟩
    refine (Reader.next?_bind_eq_ok_iff Reader.exact_text rfl).2
      ⟨_, hid, ?_⟩
    refine (Reader.next?_bind_eq_ok_iff Parameter.exact_read.list rfl).2
      ⟨_, hparameters, ?_⟩
    refine (Reader.next?_bind_eq_ok_iff Response.exact_read.list rfl).2
      ⟨_, hresponses, ?_⟩
    refine (Reader.next?_bind_eq_ok_iff Reader.exact_text.list rfl).2
      ⟨_, hheaders, ?_⟩
    refine (Reader.next?_bind_eq_ok_iff Reader.exact_text.list rfl).2
      ⟨_, himported, ?_⟩
    refine (Reader.next?_bind_eq_ok_iff Reader.exact_text rfl).2
      ⟨_, hpath, ?_⟩
    refine (Reader.next?_bind_eq_ok_iff Reader.exact_orNull_text rfl).2
      ⟨_, hconsumes, ?_⟩
    refine (Reader.next?_bind_eq_ok_iff Reader.exact_orNull_text rfl).2
      ⟨_, hproduces, ?_⟩
    exact Reader.end_eq_ok_iff.2 ⟨hlength, rfl⟩

/-- An operation is read from exactly what it is written as. -/
theorem exact_read : Reader.Exact read Spelled :=
  Reader.exact_record (fun _ _ => ofFields_eq_ok_iff)
    fun _ _ => ofItems_eq_ok_iff

end Operation

end ApiContract
