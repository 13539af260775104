/-
Statuses that are written as numbers. A number below 2^64 stands for its
decimal text, so what a number is read as and what its text is read as cannot
be told apart, whatever the document around it is (`ofValue_renumbered`: one
congruence for each record on the way to the status, and one for the lists
between them).

What holds of statuses as texts then holds of the numbers: a status of three
characters is one from 100 to 999, a success is one from 200 to 299, and the
same number written once either way is a repeated status.
-/
import ApiContract.Proofs.Number.Digits
import ApiContract.Proofs.Operation.Decoding
import ApiContract.Proofs.Operation.Verdict

namespace ApiContract

open Number (IsDecimal)

-- ================================================== statement vocabulary

/-- Of two records with these names one has another value in the place of a
field, and the two values are related. The place in an object is any field of
that name, be it the one that counts or not. -/
inductive Value.FieldReplaced (names : List String) (name : String)
    (R : Value → Value → Prop) : Value → Value → Prop
  | field (before after : List (String × Value)) {v w : Value} (h : R v w) :
      FieldReplaced names name R (.object (before ++ (name, v) :: after))
        (.object (before ++ (name, w) :: after))
  | item (before after : List Value) {v w : Value}
      (position : before.length = names.idxOf name) (h : R v w) :
      FieldReplaced names name R (.list (before ++ v :: after))
        (.list (before ++ w :: after))

/-- Of two lists one has another item somewhere, and the two are related. -/
inductive Value.ItemReplaced (R : Value → Value → Prop) : Value → Value → Prop
  | item (before after : List Value) {v w : Value} (h : R v w) :
      ItemReplaced R (.list (before ++ v :: after))
        (.list (before ++ w :: after))

/-- A number below 2^64 in place of its decimal text. -/
def Response.StatusRenumbered (v w : Value) : Prop :=
  ∃ n s, n < Nat.pow 2 64 ∧ IsDecimal n s ∧ v = .text s ∧ w = .int n

/-- The response with its status so replaced. -/
def Response.Renumbered : Value → Value → Prop :=
  Value.FieldReplaced shape.names "statusCode" StatusRenumbered

/-- The operation with one of its responses so replaced. -/
def Operation.Renumbered : Value → Value → Prop :=
  Value.FieldReplaced shape.names "responses"
    (Value.ItemReplaced Response.Renumbered)

/-- The document with one of its operations so replaced. -/
inductive Operations.Renumbered : Value → Value → Prop
  | list {v w : Value} (h : Value.ItemReplaced Operation.Renumbered v w) :
      Renumbered v w
  | object (before after : List (String × Value)) {v w : Value}
      (h : Value.ItemReplaced Operation.Renumbered v w) :
      Renumbered (.object (before ++ ("operations", v) :: after))
        (.object (before ++ ("operations", w) :: after))

/-- What is no status: a number out of range or with a fraction, or anything
that is neither a number nor a text. -/
inductive Value.NoStatus : Value → Prop
  | negative {i : Int} (h : i < 0) : NoStatus (.int i)
  | large {i : Int} (h : (Nat.pow 2 64 : Nat) ≤ i) : NoStatus (.int i)
  | real (x : Number.Binary64) : NoStatus (.real x)
  | bool (b : Bool) : NoStatus (.bool b)
  | null : NoStatus .null
  | list (items : List Value) : NoStatus (.list items)
  | object (fields : List (String × Value)) : NoStatus (.object fields)

/-- In the place of the status of what may be a response stands the value. -/
def Response.HasStatus (response status : Value) : Prop :=
  ∃ places, response.places? shape.names = some places
    ∧ places "statusCode" = some status

/-- In what may be an operation, the response at the position has the value in
the place of its status. -/
def Operation.HasStatusAt (operation : Value) (position : Nat)
    (status : Value) : Prop :=
  ∃ places items response, operation.places? shape.names = some places
    ∧ places "responses" = some (.list items)
    ∧ items[position]? = some response ∧ Response.HasStatus response status

-- ========================================================== congruences

/-- What stands under a name, seen from one field: what a later field of that
name has, the field itself, or what an earlier one has. -/
theorem Value.field?_append_cons (name key : String) (v : Value)
    (before after : List (String × Value)) :
    field? key (before ++ (name, v) :: after)
      = (field? key after).or
        (if name = key then some v else field? key before) := by
  rw [field?_append, field?]
  cases field? key after with
  | some _ => rfl
  | none =>
      show (if name = key then some v else none).or (field? key before)
        = if name = key then some v else field? key before
      split
      · rfl
      · rfl

namespace Reader

variable {α β : Type} {read : Reader α} {v w : Value}

/-- A field is read alike where it is replaced by one that is. -/
theorem field?_replaced {name : String} {before after : List (String × Value)}
    (h : read v = read w) :
    field? (before ++ (name, v) :: after) name read
      = field? (before ++ (name, w) :: after) name read := by
  unfold field?
  rw [Value.field?_append_cons, Value.field?_append_cons, if_pos rfl,
    if_pos rfl]
  cases Value.field? name after with
  | some _ => rfl
  | none => exact congrArg (Except.map some) h

/-- So is every other field. -/
theorem field?_replaced_of_ne (v w : Value) {name key : String}
    {before after : List (String × Value)} (h : name ≠ key) :
    field? (before ++ (name, v) :: after) key read
      = field? (before ++ (name, w) :: after) key read := by
  unfold field?
  rw [Value.field?_append_cons, Value.field?_append_cons, if_neg h, if_neg h]

theorem items_replaced (h : read v = read w) (before after : List Value) :
    items read (before ++ v :: after) = items read (before ++ w :: after) := by
  induction before with
  | nil =>
      rw [List.nil_append, List.nil_append]
      unfold items
      rw [h]
  | cons first before ih =>
      rw [List.cons_append, List.cons_append]
      unfold items
      rw [ih]

/-- The next item is read alike where it is replaced by one that is, and so is
a record when the rest of it is. -/
theorem next?_bind_congr {rest rest' : List Value}
    {f f' : Option α × List Value → Except Mismatch β} (h : read v = read w)
    (hf : ∀ a, f (some a, rest) = f' (some a, rest')) :
    next? read (v :: rest) >>= f = next? read (w :: rest') >>= f' := by
  show (read v).map _ >>= f = (read w).map _ >>= f'
  rw [h]
  cases read w with
  | error e => rfl
  | ok a => exact hf a

/-- A list is read alike where an item is replaced by one that is. -/
theorem list_replaced {R : Value → Value → Prop}
    (h : Value.ItemReplaced R v w) (hR : ∀ v w, R v w → read v = read w) :
    list read v = list read w := by
  obtain ⟨before, after, h⟩ := h
  exact items_replaced (hR _ _ h) _ _

end Reader

theorem Response.readStatus_renumbered {v w : Value}
    (h : StatusRenumbered v w) : readStatus v = readStatus w := by
  obtain ⟨n, s, hn, hs, rfl, rfl⟩ := h
  have hnumber : readStatus (.int n) = .ok s :=
    (exact_readStatus _ _).2 (.inr ⟨n, hn, rfl, Number.isDecimal_iff.1 hs⟩)
  rw [hnumber]
  rfl

theorem Response.read_renumbered {v w : Value} (h : Renumbered v w) :
    read v = read w := by
  cases h with
  | @field before after v w h =>
      show ofFields _ = ofFields _
      unfold ofFields
      simp only [Reader.field?_replaced_of_ne v w, ne_eq, String.reduceEq,
        not_false_eq_true, Reader.field?_replaced (readStatus_renumbered h)]
  | item before after position h =>
      cases List.length_eq_zero_iff.1 position
      exact Reader.next?_bind_congr (readStatus_renumbered h) fun _ => rfl

theorem Operation.read_renumbered {v w : Value} (h : Renumbered v w) :
    read v = read w := by
  cases h with
  | @field _ _ v w h =>
      have hresponses := Reader.list_replaced h
        fun _ _ => Response.read_renumbered
      show ofFields _ = ofFields _
      unfold ofFields
      simp only [Reader.field?_replaced_of_ne v w, ne_eq, String.reduceEq,
        not_false_eq_true, Reader.field?_replaced hresponses]
  | item before after position h =>
      -- three fields stand in front of the responses
      obtain ⟨method, id, parameters, rfl⟩ := List.length_eq_three.1 position
      have hresponses := Reader.list_replaced h
        fun _ _ => Response.read_renumbered
      refine Reader.next?_bind_congr rfl fun _ => ?_
      refine Reader.next?_bind_congr rfl fun _ => ?_
      refine Reader.next?_bind_congr rfl fun _ => ?_
      exact Reader.next?_bind_congr hresponses fun _ => rfl

/-- A document is read alike, errors and all, when a number below 2^64 is put
in place of its decimal text for the status of a response. -/
theorem Operations.ofValue_renumbered {v w : Value} (h : Renumbered v w) :
    ofValue v = ofValue w := by
  -- an operation is no `null`, so it is read as one that is there
  have hentry : ∀ v w, Operation.Renumbered v w →
      Reader.orNull Operation.read v = Reader.orNull Operation.read w := by
    intro v w h
    have hread := Operation.read_renumbered h
    cases h with
    | field => exact congrArg (Except.map some) hread
    | item => exact congrArg (Except.map some) hread
  have hentries : ∀ v w, Value.ItemReplaced Operation.Renumbered v w →
      readEntries v = readEntries w := fun v w h =>
    congrArg (Except.mapError DocumentError.mismatch)
      (Reader.list_replaced h hentry)
  cases h with
  | list h =>
      have hlist := hentries _ _ h
      cases h with
      | item => exact hlist
  | @object before after v w h =>
      unfold ofValue
      dsimp only
      rw [Value.field?_append_cons, Value.field?_append_cons, if_pos rfl,
        if_pos rfl]
      cases Value.field? "operations" after with
      | some _ => rfl
      | none => exact hentries v w h

-- ============================================================ readings

namespace Response

/-- A number below 2^64 is read as its decimal text. -/
theorem readStatus_int_eq_ok_iff {n : Nat} (hn : n < Nat.pow 2 64)
    {s : String} : readStatus (.int n) = .ok s ↔ IsDecimal n s := by
  rw [exact_readStatus, Number.isDecimal_iff]
  constructor
  · rintro (h | ⟨m, -, h, rfl⟩)
    · cases h
    · rw [Int.ofNat_inj.1 (Value.int.inj h)]
  · rintro rfl
    exact .inr ⟨n, hn, rfl, rfl⟩

/-- No two numbers are read as the same status. -/
theorem int_unique_of_readStatus {i j : Int} {s : String}
    (hi : readStatus (.int i) = .ok s) (hj : readStatus (.int j) = .ok s) :
    i = j := by
  rcases (exact_readStatus _ _).1 hi with h | ⟨m, hm, hmi, hms⟩
  · cases h
  rcases (exact_readStatus _ _).1 hj with h | ⟨n, hn, hnj, hns⟩
  · cases h
  have hmn : m = n :=
    (Number.isDecimal_iff.2 hms).unique (Number.isDecimal_iff.2 hns)
  rw [Value.int.inj hmi, Value.int.inj hnj, hmn]

/-- A response with the decimal text of a number for its status is a success
exactly when the number is one of the two hundreds. -/
theorem isSuccess_iff_of_isDecimal {r : Response} {n : Nat}
    (h : IsDecimal n r.status) :
    r.isSuccess = true ↔ 200 ≤ n ∧ n ≤ 299 := by
  rw [← h.two_hundreds_iff]
  unfold isSuccess
  rw [Bool.and_eq_true, beq_iff_eq, beq_iff_eq]

theorem readStatus_of_noStatus {v : Value} (h : v.NoStatus) :
    readStatus v = .error .badStatus := by
  have hrange : ∀ i : Int, i < 0 ∨ (Nat.pow 2 64 : Nat) ≤ i →
      readStatus (.int i) = .error .badStatus := by
    intro i hi
    show (if Number.fitsUnsigned 64 i then _ else _) = _
    rw [if_neg]
    rw [Number.fitsUnsigned_iff]
    rintro ⟨n, hn, rfl⟩
    omega
  cases h with
  | negative h => exact hrange _ (.inl h)
  | large h => exact hrange _ (.inr h)
  | _ => rfl

/-- The status of a response is what stands in its place is read as. -/
theorem readStatus_of_hasStatus {response v : Value} {r : Response}
    (hread : read response = .ok r) (h : HasStatus response v) :
    readStatus v = .ok r.status := by
  obtain ⟨places, hplaces, hstatus⟩ := h
  obtain ⟨places', hplaces', hin⟩ := (exact_read _ _).1 hread
  obtain rfl := Option.some.inj (hplaces.symm.trans hplaces')
  have hgiven := hin.status
  rw [hstatus] at hgiven
  exact (exact_readStatus _ _).2 hgiven

/-- What has in that place what is no status is no response. -/
theorem rejects_of_noStatus {response v : Value} (hv : v.NoStatus)
    (h : HasStatus response v) : Reader.Rejects read response := by
  refine Reader.rejects_iff.2 fun r hr => ?_
  have hread := readStatus_of_hasStatus hr h
  rw [readStatus_of_noStatus hv] at hread
  cases hread

end Response

namespace Operation

-- ============================================================== warnings

theorem oddNotices_append (id : String) (rs others : List Response) :
    oddNotices id (rs ++ others) = oddNotices id rs ++ oddNotices id others := by
  unfold oddNotices
  rw [List.filter_append, List.map_append]

/-- A response with the decimal text of a number for its status earns a warning
exactly when the number has not three digits. -/
theorem oddNotices_of_isDecimal (id : String) {r : Response} {n : Nat}
    (h : IsDecimal n r.status) : oddNotices id [r]
      = if n < 100 ∨ 999 < n then [.oddStatus id r.status] else [] := by
  have hlength := h.length_eq_three_iff
  unfold oddNotices
  by_cases hn : n < 100 ∨ 999 < n
  · have hodd : r.status.toList.length ≠ 3 := by omega
    simp [hn, hodd]
  · have hthree : r.status.toList.length = 3 := by omega
    simp [hn, hthree]

/-- The first repeated status is behind all that differ from each other. -/
theorem FirstRepeat.length_le {rs : List Response} {place : Nat}
    {r : Response} (h : FirstRepeat rs place r) {front : List Response}
    (hfront : front <+: rs) (hdiffer : StatusesDiffer front) :
    front.length ≤ place := by
  obtain ⟨after, rfl⟩ := hfront
  obtain ⟨i, hi, e, he, hsame⟩ := h.repeats
  have hhere := h.here
  by_contra hlt
  rw [Nat.not_le] at hlt
  rw [List.getElem?_append_left (by omega)] at he hhere
  obtain ⟨hilt, rfl⟩ := List.getElem?_eq_some_iff.1 he
  obtain ⟨hplace, rfl⟩ := List.getElem?_eq_some_iff.1 hhere
  exact List.pairwise_iff_getElem.1 hdiffer i place hilt hplace hi hsame

/-- A response that is reached, all statuses up to it being different, earns
its warning behind those on the responses in front of it; what is warned of
after that is on responses behind it. -/
theorem checkResponses_notices {op : Operation}
    {before after : List Response} {r : Response}
    (hsplit : op.responses = before ++ r :: after)
    (hdiffer : StatusesDiffer (before ++ [r])) :
    ∃ count, op.checkResponses.notices = oddNotices op.id before
      ++ oddNotices op.id [r] ++ oddNotices op.id (after.take count) := by
  have hfront : op.responses = (before ++ [r]) ++ after := by
    rw [hsplit, List.append_assoc, List.singleton_append]
  by_cases hall : StatusesDiffer op.responses
  case pos =>
    refine ⟨after.length, ?_⟩
    rw [checkResponses_of_differ hall, hfront, List.take_length,
      oddNotices_append, oddNotices_append]
  case neg =>
    obtain ⟨place, repeated, hfirst⟩ := exists_firstRepeat hall
    have hplace : (before ++ [r]).length ≤ place :=
      hfirst.length_le (hfront ▸ List.prefix_append _ _) hdiffer
    refine ⟨place - (before ++ [r]).length, ?_⟩
    rw [checkResponses_of_firstRepeat hfirst, hfront, List.take_append,
      List.take_of_length_le hplace, oddNotices_append, oddNotices_append]

-- ============================================================ duplicates

/-- What stands at a position for a status is read as the status there. -/
theorem exists_response_of_hasStatusAt {v status : Value} {op : Operation}
    {position : Nat} (hread : read v = .ok op)
    (h : HasStatusAt v position status) :
    ∃ r, op.responses[position]? = some r
      ∧ Response.readStatus status = .ok r.status := by
  obtain ⟨places, items, response, hplaces, hitems, hitem, hstatus⟩ := h
  obtain ⟨places', hplaces', hin⟩ := (exact_read _ _).1 hread
  obtain rfl := Option.some.inj (hplaces.symm.trans hplaces')
  have hgiven := hin.responses
  rw [hitems] at hgiven
  obtain ⟨_, ⟨⟩, hall⟩ := hgiven
  obtain ⟨hlength, hspelled⟩ := List.forall₂_iff_get.1 hall
  obtain ⟨hlt, rfl⟩ := List.getElem?_eq_some_iff.1 hitem
  have hlt' : position < op.responses.length := by omega
  refine ⟨_, List.getElem?_eq_getElem hlt', ?_⟩
  exact Response.readStatus_of_hasStatus
    ((Response.exact_read _ _).2 (hspelled position hlt' hlt)) hstatus

/-- With what is no status in such a place there is no operation. -/
theorem rejects_of_noStatus {v status : Value} {position : Nat}
    (hstatus : status.NoStatus) (h : HasStatusAt v position status) :
    Reader.Rejects read v := by
  refine Reader.rejects_iff.2 fun op hop => ?_
  obtain ⟨r, -, hr⟩ := exists_response_of_hasStatusAt hop h
  rw [Response.readStatus_of_noStatus hstatus] at hr
  cases hr

/-- One value stands at a position. -/
theorem HasStatusAt.unique {v a b : Value} {position : Nat}
    (ha : HasStatusAt v position a) (hb : HasStatusAt v position b) :
    a = b := by
  obtain ⟨places, items, response, hplaces, hitems, hitem, inner, hinner,
    hstatus⟩ := ha
  obtain ⟨places', items', response', hplaces', hitems', hitem', inner',
    hinner', hstatus'⟩ := hb
  obtain rfl := Option.some.inj (hplaces.symm.trans hplaces')
  obtain rfl := Value.list.inj (Option.some.inj (hitems.symm.trans hitems'))
  obtain rfl := Option.some.inj (hitem.symm.trans hitem')
  obtain rfl := Option.some.inj (hinner.symm.trans hinner')
  exact Option.some.inj (hstatus.symm.trans hstatus')

/-- Responses at two positions with one status: some status is first repeated,
and that not behind both of them. -/
theorem exists_firstRepeat_of_same {rs : List Response} {i j : Nat}
    {a b : Response} (hij : i ≠ j) (ha : rs[i]? = some a)
    (hb : rs[j]? = some b) (hsame : a.status = b.status) :
    ∃ place r, place ≤ max i j ∧ FirstRepeat rs place r := by
  have hordered : ∀ {i j : Nat} {a b : Response}, i < j → rs[i]? = some a →
      rs[j]? = some b → a.status = b.status →
        ∃ place r, place ≤ j ∧ FirstRepeat rs place r := by
    intro i j a b hlt ha hb hsame
    have hrepeats : ¬ StatusesDiffer rs := by
      intro hdiffer
      obtain ⟨hi, rfl⟩ := List.getElem?_eq_some_iff.1 ha
      obtain ⟨hj, rfl⟩ := List.getElem?_eq_some_iff.1 hb
      exact List.pairwise_iff_getElem.1 hdiffer i j hi hj hlt hsame
    obtain ⟨place, r, hfirst⟩ := exists_firstRepeat hrepeats
    refine ⟨place, r, ?_, hfirst⟩
    by_contra hbehind
    exact hfirst.least j (by omega) i hlt a b ha hb hsame
  rcases Nat.lt_or_gt_of_ne hij with hlt | hgt
  · obtain ⟨place, r, hle, hfirst⟩ := hordered hlt ha hb hsame
    exact ⟨place, r, by omega, hfirst⟩
  · obtain ⟨place, r, hle, hfirst⟩ := hordered hgt hb ha hsame.symm
    exact ⟨place, r, by omega, hfirst⟩

/-- An operation that states one status as a number and as its decimal text
repeats a status. -/
theorem exists_firstRepeat_of_mixed {v : Value} {op : Operation}
    {i j n : Nat} {s : String} (hread : read v = .ok op)
    (hs : IsDecimal n s) (hnumber : HasStatusAt v i (.int n))
    (htext : HasStatusAt v j (.text s)) :
    ∃ place r, place ≤ max i j ∧ FirstRepeat op.responses place r := by
  have hij : i ≠ j := by
    rintro rfl
    cases hnumber.unique htext
  obtain ⟨a, ha, hastatus⟩ := exists_response_of_hasStatusAt hread hnumber
  obtain ⟨b, hb, hbstatus⟩ := exists_response_of_hasStatusAt hread htext
  refine exists_firstRepeat_of_same hij ha hb ?_
  rw [Number.isDecimal_iff] at hs
  cases hbstatus
  rcases (Response.exact_readStatus _ _).1 hastatus with h | ⟨m, -, h, hm⟩
  · cases h
  · rw [hm, hs, Int.ofNat_inj.1 (Value.int.inj h)]

end Operation

/-- A number below 2^64 stands for its decimal text as a status. It is read as
that text, so no two numbers as the same one, and no document is read otherwise
for having the one in place of the other. A response whose status it is counts
as a success exactly from 200 to 299 and, once it is reached, is warned of
exactly below 100 and above 999. To state it both ways is to repeat a status,
which is refused. What else is no text is no status. -/
theorem Response.numeric_status_as_text :
    (∀ (n : Nat) (s : String), n < Nat.pow 2 64 →
      (readStatus (.int n) = .ok s ↔ IsDecimal n s))
    ∧ (∀ (i j : Int) (s : String), readStatus (.int i) = .ok s →
      readStatus (.int j) = .ok s → i = j)
    ∧ (∀ v w, Operation.Renumbered v w →
      Operation.read w = Operation.read v)
    ∧ (∀ v w, Operations.Renumbered v w →
      Operations.ofValue w = Operations.ofValue v)
    ∧ (∀ (r : Response) (n : Nat), IsDecimal n r.status →
      (r.isSuccess = true ↔ 200 ≤ n ∧ n ≤ 299)
      ∧ ∀ (op : Operation) (before after : List Response),
        op.responses = before ++ r :: after →
          Operation.StatusesDiffer (before ++ [r]) →
            ∃ count, op.checkResponses.notices
              = Operation.oddNotices op.id before
                ++ (if n < 100 ∨ 999 < n then [.oddStatus op.id r.status]
                  else [])
                ++ Operation.oddNotices op.id (after.take count))
    ∧ (∀ (v : Value) (op : Operation) (i j n : Nat) (s : String),
      Operation.read v = .ok op → IsDecimal n s →
        Operation.HasStatusAt v i (.int n) →
          Operation.HasStatusAt v j (.text s) →
            ∃ place r, place ≤ max i j
              ∧ Operation.FirstRepeat op.responses place r
              ∧ op.checkResponses.result
                = .error (.duplicateStatus op.id r.status))
    ∧ ∀ v : Value, v.NoStatus → readStatus v = .error .badStatus
      ∧ (∀ response, HasStatus response v → Reader.Rejects read response)
      ∧ ∀ operation position, Operation.HasStatusAt operation position v →
        Reader.Rejects Operation.read operation := by
  refine ⟨fun n s hn => readStatus_int_eq_ok_iff hn,
    fun i j s => int_unique_of_readStatus,
    fun v w h => (Operation.read_renumbered h).symm,
    fun v w h => (Operations.ofValue_renumbered h).symm, ?_, ?_,
    fun v hv => ⟨readStatus_of_noStatus hv,
      fun response => rejects_of_noStatus hv,
      fun operation position => Operation.rejects_of_noStatus hv⟩⟩
  · intro r n hr
    refine ⟨isSuccess_iff_of_isDecimal hr, ?_⟩
    intro op before after hsplit hdiffer
    rw [← Operation.oddNotices_of_isDecimal op.id hr]
    exact Operation.checkResponses_notices hsplit hdiffer
  · intro v op i j n s hread hs hnumber htext
    obtain ⟨place, r, hplace, hfirst⟩ :=
      Operation.exists_firstRepeat_of_mixed hread hs hnumber htext
    refine ⟨place, r, hplace, hfirst, ?_⟩
    rw [Operation.checkResponses_of_firstRepeat hfirst]

namespace Operation

/-- An operation as an object, one response in it a list and the other one an
object, with these values for their statuses. -/
def statusesValue (first second : Value) : Value :=
  .object [("method", .text "get"), ("operationId", .text "getThing"),
    ("responses", .list [.list [first, .text "Thing"],
      .object [("payloadType", .text "Error"), ("statusCode", second)]])]

theorem hasStatusAt_first (first second : Value) :
    HasStatusAt (statusesValue first second) 0 first :=
  ⟨_, _, _, rfl, rfl, rfl, _, rfl, rfl⟩

theorem hasStatusAt_second (first second : Value) :
    HasStatusAt (statusesValue first second) 1 second :=
  ⟨_, _, _, rfl, rfl, rfl, _, rfl, rfl⟩

/-- With two texts for its statuses. -/
def spelledOut : Operation where
  method := .get
  id := "getThing"
  responses := [⟨"299", "Thing", []⟩, ⟨"1000", "Error", []⟩]

theorem isDecimal_299 : IsDecimal 299 "299" :=
  Number.isDecimal_iff.2 (by decide)

theorem isDecimal_1000 : IsDecimal 1000 "1000" :=
  Number.isDecimal_iff.2 (by decide)

end Operation

/-- The statuses may as well be numbers, the first one for a success and the
second one with a warning; the same one either way is refused, and a number
past the range is no status. -/
theorem Response.statuses_of_spelledOut :
    readStatus (.int 299) = .ok "299"
    ∧ Operation.read (Operation.statusesValue (.int 299) (.text "1000"))
      = .ok Operation.spelledOut
    ∧ Operations.ofValue (.list [.null,
        Operation.statusesValue (.text "299") (.int 1000)])
      = .ok [none, some Operation.spelledOut]
    ∧ Response.isSuccess ⟨"299", "Thing", []⟩ = true
    ∧ (∃ count, Operation.spelledOut.checkResponses.notices
      = [.oddStatus "getThing" "1000"]
        ++ Operation.oddNotices "getThing" (List.take count []))
    ∧ (∃ op r, Operation.read
        (Operation.statusesValue (.int 299) (.text "299")) = .ok op
      ∧ op.checkResponses.result = .error (.duplicateStatus op.id r))
    ∧ Reader.Rejects Operation.read
      (Operation.statusesValue (.int 18446744073709551616) (.text "1000")) := by
  obtain ⟨hread, -, hone, hall, hdigits, hmixed, hnone⟩ :=
    numeric_status_as_text
  have hsmall : ∀ n, n < 1001 → n < Nat.pow 2 64 := fun n hn =>
    Nat.lt_trans hn (by decide)
  refine ⟨?number, ?first, ?second, ?success, ?warning, ?repeated, ?past⟩
  case number =>
    exact (hread 299 "299" (hsmall _ (by decide))).2 Operation.isDecimal_299
  case first =>
    refine (hone (Operation.statusesValue (.text "299") (.text "1000")) _
      ?_).trans rfl
    refine .field [_, _] [] (.item [] _ (.item [] _ rfl ?_))
    exact ⟨299, "299", hsmall _ (by decide), Operation.isDecimal_299, rfl, rfl⟩
  case second =>
    refine (hall (.list [.null, Operation.statusesValue (.text "299")
      (.text "1000")]) _ ?_).trans rfl
    refine .list (.item [.null] [] (.field [_, _] [] ?_))
    refine .item [_] [] (.field [_] [] ?_)
    exact ⟨1000, "1000", hsmall _ (by decide), Operation.isDecimal_1000, rfl,
      rfl⟩
  case success =>
    exact (hdigits ⟨"299", "Thing", []⟩ 299 Operation.isDecimal_299).1.2
      (by decide)
  case warning =>
    exact (hdigits ⟨"1000", "Error", []⟩ 1000 Operation.isDecimal_1000).2
      Operation.spelledOut [⟨"299", "Thing", []⟩] [] rfl
      (by simp [Operation.StatusesDiffer])
  case repeated =>
    obtain ⟨place, r, -, -, hrefused⟩ := hmixed
      (Operation.statusesValue (.int 299) (.text "299")) _ 0 1 299 "299" rfl
      Operation.isDecimal_299 (Operation.hasStatusAt_first _ _)
      (Operation.hasStatusAt_second _ _)
    exact ⟨_, r.status, rfl, hrefused⟩
  case past =>
    exact (hnone _ (.large (by decide))).2.2 _ 0
      (Operation.hasStatusAt_first _ _)

end ApiContract
