/-
What a selection leaves of a list, and what it warns of. The empty selection
takes a shortcut that comes to the same as the filter: it keeps every entry
and has nothing to warn of. Absent entries are always kept, so the operations
that are left are those that were there and whose id the selection keeps, in
order.

# The laws of selecting

What is kept is decided entry by entry, by the ids alone: whether an id is
among the wanted and the unwanted ones, not how often or where. All laws of the
list rest on that, the second selection being one more filter. What is warned
of is decided by the wanted ids and by the list as it comes in, so it knows
nothing of what is ruled out.
-/
import ApiContract.Operation.Selection
import ApiContract.Proofs.Notice

namespace ApiContract

-- ================================================== statement vocabulary

/-- Of the first list the second one holds exactly what has the property, in
order and as often as it stands there. -/
inductive Sifted {α : Type} (P : α → Prop) : List α → List α → Prop
  | nil : Sifted P [] []
  | keep {a : α} {as bs : List α} (h : P a) (rest : Sifted P as bs) :
      Sifted P (a :: as) (a :: bs)
  | drop {a : α} {as bs : List α} (h : ¬ P a) (rest : Sifted P as bs) :
      Sifted P (a :: as) bs

/-- No operation in the list has the id. -/
def Missing (entries : List (Option Operation)) (id : String) : Prop :=
  ∀ op, some op ∈ entries → op.id ≠ id

namespace Selection

/-- Operations of this id are wanted: it is included, or none is by name, and
it is not excluded. -/
structure WantsId (s : Selection) (id : String) : Prop where
  included : s.included = [] ∨ id ∈ s.included
  notExcluded : id ∉ s.excluded

/-- The entry is wanted; an absent one always is. -/
def Wants (s : Selection) (entry : Option Operation) : Prop :=
  ∀ op, entry = some op → s.WantsId op.id

/-- Only what the selection includes by name. -/
def includedPart (s : Selection) : Selection := ⟨s.included, []⟩

/-- Only what the selection excludes. -/
def excludedPart (s : Selection) : Selection := ⟨[], s.excluded⟩

/-- The two selections name the same ids, in whatever order and however
often. -/
structure SameIds (s t : Selection) : Prop where
  included : ∀ id, id ∈ s.included ↔ id ∈ t.included
  excluded : ∀ id, id ∈ s.excluded ↔ id ∈ t.excluded

variable {s t : Selection} {entries : List (Option Operation)}

-- ============================================================== shortcut

theorem keeps_of_isEmpty (h : s.isEmpty = true) (entry : Option Operation) :
    s.keeps entry = true := by
  obtain ⟨included, excluded⟩ := s
  obtain ⟨hincluded, hexcluded⟩ := Bool.and_eq_true_iff.1 h
  rw [List.isEmpty_iff] at hincluded hexcluded
  cases hincluded
  cases hexcluded
  cases entry <;> rfl

theorem notices_of_isEmpty (h : s.isEmpty = true) :
    s.notices entries = [] := by
  have hincluded := (Bool.and_eq_true_iff.1 h).1
  rw [List.isEmpty_iff] at hincluded
  unfold notices
  rw [hincluded]
  rfl

/-- Every selection is a filter with warnings, the empty one too. -/
theorem apply_eq {ε : Type} (s : Selection)
    (entries : List (Option Operation)) :
    (s.apply entries : Logged ε _)
      = ⟨s.notices entries, .ok (entries.filter s.keeps)⟩ := by
  unfold apply
  split
  case isTrue h =>
    have hall : ∀ entry ∈ entries, s.keeps entry = true :=
      fun entry _ => keeps_of_isEmpty h entry
    rw [notices_of_isEmpty h, List.filter_eq_self.2 hall]
    rfl
  case isFalse h => rfl

/-- What is left of the operations of a list. -/
theorem filterMap_filter_keeps (s : Selection)
    (entries : List (Option Operation)) :
    (entries.filter s.keeps).filterMap id
      = (entries.filterMap id).filter fun op => s.keepsId op.id := by
  rw [List.filterMap_filter, List.filter_filterMap]
  refine congrArg (List.filterMap · entries) (funext fun entry => ?_)
  cases entry with
  | none => rfl
  | some op => rfl

-- ======================================================== what is decided

/-- A filter sifts out what its test is for. -/
theorem sifted_filter {α : Type} {P : α → Prop} {p : α → Bool} {as : List α}
    (h : ∀ a ∈ as, p a = true ↔ P a) : Sifted P as (as.filter p) := by
  induction as with
  | nil => exact .nil
  | cons a rest ih =>
      obtain ⟨ha, hrest⟩ := List.forall_mem_cons.1 h
      by_cases hp : p a = true
      · rw [List.filter_cons_of_pos hp]
        exact .keep (ha.1 hp) (ih hrest)
      · rw [List.filter_cons_of_neg hp]
        exact .drop (fun hP => hp (ha.2 hP)) (ih hrest)

theorem keepsId_iff {id : String} : s.keepsId id = true ↔ s.WantsId id := by
  unfold keepsId
  rw [Bool.and_eq_true, Bool.or_eq_true, List.isEmpty_iff,
    List.contains_iff_mem, Bool.not_eq_true', ← Bool.not_eq_true,
    List.contains_iff_mem]
  constructor
  · intro h
    exact ⟨h.1, h.2⟩
  · intro h
    exact ⟨h.included, h.notExcluded⟩

theorem keeps_iff {entry : Option Operation} :
    s.keeps entry = true ↔ s.Wants entry := by
  unfold Wants
  cases entry with
  | none => simp [keeps]
  | some op => simp [keeps, keepsId_iff]

theorem missing_iff {id : String} :
    (!(entries.filterMap (·.map Operation.id)).contains id) = true
      ↔ Missing entries id := by
  rw [Bool.not_eq_true', ← Bool.not_eq_true, List.contains_iff_mem,
    List.mem_filterMap]
  constructor
  · intro h op hop hid
    exact h ⟨some op, hop, congrArg some hid⟩
  · rintro h ⟨entry, hentry, hid⟩
    obtain ⟨op, rfl, hop⟩ := Option.map_eq_some_iff.1 hid
    exact h op hentry hop

/-- The warnings are on the wanted ids that are missing, one for each place
at which such an id is included. -/
theorem exists_notices_eq (s : Selection) (entries : List (Option Operation)) :
    ∃ missing, Sifted (Missing entries) s.included missing
      ∧ s.notices entries = missing.map .notInInput :=
  ⟨_, sifted_filter fun _ _ => missing_iff, rfl⟩

-- ================================================================== laws

/-- What is left is what the two tests of a sequence of selections leave
together. -/
theorem result_apply_apply {ε : Type} (s t : Selection)
    (entries : List (Option Operation)) :
    ((s.apply entries : Logged ε _) >>= t.apply).result
      = .ok (entries.filter fun entry => t.keeps entry && s.keeps entry) := by
  rw [apply_eq s, Logged.bind_of_ok rfl, apply_eq t, List.filter_filter]

theorem keeps_parts (s : Selection) (entry : Option Operation) :
    (s.excludedPart.keeps entry && s.includedPart.keeps entry)
      = s.keeps entry := by
  cases entry with
  | none => rfl
  | some op =>
      simp [keeps, keepsId, includedPart, excludedPart, Bool.and_comm]

/-- Only the ids count. -/
theorem SameIds.keeps_eq (h : s.SameIds t) : s.keeps = t.keeps := by
  have hempty : s.included = [] ↔ t.included = [] := by
    simp only [List.eq_nil_iff_forall_not_mem, h.included]
  funext entry
  rw [Bool.eq_iff_iff, keeps_iff, keeps_iff]
  unfold Wants
  refine forall_congr' fun op => imp_congr_right fun _ => ?_
  constructor
  · rintro ⟨hincluded, hexcluded⟩
    rw [hempty, h.included] at hincluded
    exact ⟨hincluded, mt (h.excluded _).2 hexcluded⟩
  · rintro ⟨hincluded, hexcluded⟩
    rw [← hempty, ← h.included] at hincluded
    exact ⟨hincluded, mt (h.excluded _).1 hexcluded⟩

/-- A selection leaves the entries that it wants and warns of the ids that are
missing, each of them in order and as often as it stands there; the shortcut of
the empty one is no exception. What is left is the same when the selection is
applied again, when it is applied in its two parts, and when the ids are
written otherwise, and it is put together from what is left of the parts of a
list. The warnings know nothing of what is excluded. -/
theorem apply_exact {ε : Type} (s : Selection)
    (entries : List (Option Operation)) :
    (∃ kept missing,
      (s.apply entries : Logged ε _) = ⟨missing.map .notInInput, .ok kept⟩
        ∧ Sifted s.Wants entries kept
        ∧ Sifted (Missing entries) s.included missing)
    ∧ (s.apply entries : Logged ε _)
      = ⟨s.notices entries, .ok (entries.filter s.keeps)⟩
    ∧ ((s.apply entries : Logged ε _) >>= s.apply).result
      = (s.apply entries : Logged ε _).result
    ∧ ((s.includedPart.apply entries : Logged ε _)
        >>= s.excludedPart.apply).result
      = (s.apply entries : Logged ε _).result
    ∧ (∀ t, s.SameIds t → (t.apply entries : Logged ε _).result
      = (s.apply entries : Logged ε _).result)
    ∧ (∀ others, (s.apply (entries ++ others) : Logged ε _).result
      = do
        let kept ← (s.apply entries : Logged ε _).result
        let keptOfOthers ← (s.apply others : Logged ε _).result
        return kept ++ keptOfOthers)
    ∧ ∀ excluded,
      (apply ⟨s.included, excluded⟩ entries : Logged ε _).notices
        = (s.apply entries : Logged ε _).notices := by
  refine ⟨?_, apply_eq s entries, ?_, ?_, fun t h => ?_, fun others => ?_,
    fun excluded => ?_⟩
  · obtain ⟨missing, hmissing, hnotices⟩ := s.exists_notices_eq entries
    refine ⟨_, missing, ?_, sifted_filter fun _ _ => keeps_iff, hmissing⟩
    rw [apply_eq, hnotices]
  · rw [result_apply_apply, apply_eq]
    simp only [Bool.and_self]
  · rw [result_apply_apply, apply_eq]
    simp only [keeps_parts]
  · rw [apply_eq, apply_eq, h.keeps_eq]
  · rw [apply_eq, apply_eq, apply_eq, List.filter_append]
    rfl
  · rw [apply_eq, apply_eq]
    rfl

/-- Ids that are included more than once, are missing, or are excluded as
well. -/
def muddled : Selection := ⟨["b", "x", "a", "b", "x"], ["a", "y", "a"]⟩

/-- A list with an operation that stands there twice and one that is
absent. -/
def assorted : List (Option Operation) :=
  [some ⟨.get, "b", [], [], [], [], "", none, none⟩, none,
    some ⟨.get, "c", [], [], [], [], "", none, none⟩,
    some ⟨.get, "b", [], [], [], [], "", none, none⟩,
    some ⟨.put, "a", [], [], [], [], "", none, none⟩]

/-- It may as well be written in order and without repetition. -/
theorem muddled_apply :
    muddled.SameIds ⟨["a", "b", "x"], ["a", "y"]⟩
      ∧ (apply ⟨["a", "b", "x"], ["a", "y"]⟩ assorted :
        Logged Unit _).result = (muddled.apply assorted).result
      ∧ (muddled.apply assorted : Logged Unit _)
        = ⟨[.notInInput "x", .notInInput "x"],
          .ok [some ⟨.get, "b", [], [], [], [], "", none, none⟩, none,
            some ⟨.get, "b", [], [], [], [], "", none, none⟩]⟩ := by
  obtain ⟨-, hfilter, -, -, hsame, -, -⟩ :=
    apply_exact (ε := Unit) muddled assorted
  have hids : muddled.SameIds ⟨["a", "b", "x"], ["a", "y"]⟩ := by
    constructor
    · intro id
      simp only [muddled, List.mem_cons]
      grind
    · intro id
      simp only [muddled, List.mem_cons]
      grind
  exact ⟨hids, hsame _ hids, hfilter.trans rfl⟩

end Selection

end ApiContract
