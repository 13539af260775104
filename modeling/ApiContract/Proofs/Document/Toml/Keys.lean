/-
No key is given twice in a table that was read. A table grows while its file
is read, by entries and by headers, and each of them either changes what is
under a key that is there or comes under a new one, so the keys stay distinct
from line to line (`distinct_of_lines`). What is added deep inside a table is,
for the table itself, a change under one key (`distinct_changeAt`).
-/
import Mathlib.Data.List.Nodup
import ApiContract.Document.Toml.Reader

namespace ApiContract.Toml

-- ================================================== statement vocabulary

/-- No two entries have one key. -/
def Distinct {α : Type} (entries : List (String × α)) : Prop :=
  (entries.map Prod.fst).Nodup

instance {α : Type} (entries : List (String × α)) :
    Decidable (Distinct entries) :=
  inferInstanceAs (Decidable (List.Nodup _))

-- ================================================================ entries

variable {key : String} {items new : Items}

/-- Nothing is found under a key just when no entry has it. -/
theorem lookup_eq_none_iff {α : Type} {entries : List (String × α)} :
    entries.lookup key = none ↔ key ∉ entries.map Prod.fst := by
  induction entries with
  | nil => simp
  | cons e rest ih =>
      rw [List.map_cons, List.mem_cons, not_or, ← ih, List.lookup_cons]
      by_cases h : key = e.1
      · simp [h]
      · simp [h, beq_eq_false_iff_ne.2 h]

theorem distinct_concat (i : Item) (h : Distinct items)
    (hkey : items.lookup key = none) : Distinct (items ++ [(key, i)]) := by
  unfold Distinct at h ⊢
  rw [List.map_append, List.map_singleton, ← List.concat_eq_append]
  exact h.concat (lookup_eq_none_iff.1 hkey)

/-- Replacing an entry keeps the keys, or adds a new one. -/
theorem keys_replace (i : Item) : (replace key i items).map Prod.fst
    = if key ∈ items.map Prod.fst then items.map Prod.fst
      else items.map Prod.fst ++ [key] := by
  induction items with
  | nil => simp [replace]
  | cons e rest ih =>
      obtain ⟨k, old⟩ := e
      by_cases h : k = key
      · simp [replace, h]
      · rw [replace, if_neg h, List.map_cons, ih, List.map_cons]
        simp only [List.mem_cons, Ne.symm h, false_or]
        split <;> rfl

theorem distinct_replace (i : Item) (h : Distinct items) :
    Distinct (replace key i items) := by
  unfold Distinct at h ⊢
  rw [keys_replace]
  split
  case isTrue => exact h
  case isFalse hkey =>
    rw [← List.concat_eq_append]
    exact h.concat hkey

-- ================================================================ changes

/-- A change somewhere in a table keeps its keys distinct when what is done
at the end of the path does. -/
theorem distinct_changeAt {dotted : Bool}
    {f : Origin → Items → Option Items} {path : List String} {origin : Origin}
    (hf : ∀ origin items new, Distinct items → f origin items = some new →
      Distinct new)
    (h : Distinct items)
    (hnew : changeAt dotted f path origin items = some new) :
    Distinct new := by
  cases path with
  | nil => exact hf origin items new h hnew
  | cons key path =>
      -- whatever becomes of the inner table, it is put under its key again
      have hput : ∃ i, new = replace key i items := by
        unfold changeAt at hnew
        split at hnew
        · obtain ⟨inner, -, hnew⟩ := Option.bind_eq_some_iff.1 hnew
          exact ⟨_, (Option.some.inj hnew).symm⟩
        · cases hnew
        · dsimp only at hnew
          split at hnew
          · cases hnew
          · obtain ⟨inner, -, hnew⟩ := Option.bind_eq_some_iff.1 hnew
            exact ⟨_, (Option.some.inj hnew).symm⟩
        · obtain ⟨last, -, hnew⟩ := Option.bind_eq_some_iff.1 hnew
          exact ⟨_, (Option.some.inj hnew).symm⟩
      obtain ⟨i, rfl⟩ := hput
      exact distinct_replace i h

theorem distinct_addEntry {path : List String} {v : Value}
    (h : Distinct items) (hnew : addEntry path v items = some new) :
    Distinct new := by
  obtain ⟨name, -, hnew⟩ := Option.bind_eq_some_iff.1 hnew
  refine distinct_changeAt ?_ h hnew
  intro origin inner inner' hinner hadded
  split at hadded
  case isTrue => cases hadded
  split at hadded
  case isTrue => cases hadded
  case isFalse hname =>
    cases hadded
    rw [Bool.not_eq_true, Option.isSome_eq_false_iff,
      Option.isNone_iff_eq_none] at hname
    exact distinct_concat _ hinner hname

theorem distinct_addEntryUnder {header path : List String} {v : Value}
    (h : Distinct items) (hnew : addEntryUnder header path v items = some new) :
    Distinct new := by
  refine distinct_changeAt ?_ h hnew
  intro origin inner inner' hinner hadded
  exact distinct_addEntry hinner hadded

theorem distinct_openTable {header : List String}
    (h : Distinct items) (hnew : openTable header items = some new) :
    Distinct new := by
  obtain ⟨name, -, hnew⟩ := Option.bind_eq_some_iff.1 hnew
  refine distinct_changeAt ?_ h hnew
  intro origin inner inner' hinner hopened
  split at hopened
  next hname =>
    cases hopened
    exact distinct_concat _ hinner hname
  next old hname =>
    -- the table comes to stand at the end, where its name is new
    cases hopened
    have hothers : Distinct (inner.filter (·.1 ≠ name)) :=
      hinner.sublist (List.filter_sublist.map Prod.fst)
    refine distinct_concat _ hothers ?_
    rw [lookup_eq_none_iff, List.mem_map]
    rintro ⟨e, he, rfl⟩
    simpa using (List.mem_filter.1 he).2
  next => cases hopened

theorem distinct_openTables {header : List String}
    (h : Distinct items) (hnew : openTables header items = some new) :
    Distinct new := by
  obtain ⟨name, -, hnew⟩ := Option.bind_eq_some_iff.1 hnew
  refine distinct_changeAt ?_ h hnew
  intro origin inner inner' hinner hopened
  split at hopened
  next hname =>
    cases hopened
    exact distinct_concat _ hinner hname
  next all hname =>
    cases hopened
    exact distinct_replace _ hinner
  next => cases hopened

-- ================================================================== lines

theorem distinct_of_headerLine {r r' : Reading} {cs rest : List Char}
    (h : Distinct r.items) (hread : readHeader? r cs = some (r', rest)) :
    Distinct r'.items := by
  unfold readHeader? at hread
  split at hread
  all_goals
    obtain ⟨key, -, hread⟩ := Option.bind_eq_some_iff.1 hread
    obtain ⟨bracket, -, hread⟩ := Option.bind_eq_some_iff.1 hread
    obtain ⟨new, hopened, hread⟩ := Option.bind_eq_some_iff.1 hread
    obtain ⟨behind, -, hread⟩ := Option.bind_eq_some_iff.1 hread
    cases hread
  · exact distinct_openTables h hopened
  · exact distinct_openTable h hopened

theorem distinct_of_entryLine {r r' : Reading} {cs rest : List Char}
    (h : Distinct r.items) (hread : readEntry? r cs = some (r', rest)) :
    Distinct r'.items := by
  obtain ⟨key, -, hread⟩ := Option.bind_eq_some_iff.1 hread
  dsimp only at hread
  split at hread
  case isTrue => cases hread
  obtain ⟨v, -, hread⟩ := Option.bind_eq_some_iff.1 hread
  obtain ⟨new, hadded, hread⟩ := Option.bind_eq_some_iff.1 hread
  obtain ⟨behind, -, hread⟩ := Option.bind_eq_some_iff.1 hread
  cases hread
  exact distinct_addEntryUnder h hadded

theorem distinct_of_lines {fuel : Nat} {r r' : Reading} {cs : List Char}
    (h : Distinct r.items) (hread : readAll fuel r cs = some r') :
    Distinct r'.items := by
  induction fuel generalizing r cs with
  | zero => cases hread
  | succ fuel ih =>
      unfold readAll at hread
      split at hread
      next =>
        cases hread
        exact h
      next rest =>
        obtain ⟨⟨r₁, rest₁⟩, hheader, hread⟩ :=
          Option.bind_eq_some_iff.1 hread
        exact ih (distinct_of_headerLine h hheader) hread
      next c rest =>
        split at hread
        · obtain ⟨rest₁, -, hread⟩ := Option.bind_eq_some_iff.1 hread
          exact ih h hread
        · obtain ⟨⟨r₁, rest₁⟩, hentry, hread⟩ :=
            Option.bind_eq_some_iff.1 hread
          exact ih (distinct_of_entryLine h hentry) hread

-- ================================================================= tables

theorem keys_tableOf (items : Items) :
    (tableOf items).map Prod.fst = items.map Prod.fst := by
  induction items with
  | nil => rfl
  | cons e rest ih =>
      obtain ⟨k, i⟩ := e
      rw [tableOf, List.map_cons, ih]
      rfl

/-- The keys of a table that was read are distinct. -/
theorem distinct_read? {s : String} {t : Table} (h : read? s = some t) :
    Distinct t := by
  obtain ⟨r, hread, rfl⟩ := Option.map_eq_some_iff.1 h
  have hnone : Distinct (Reading.items {}) := List.nodup_nil
  have hitems : Distinct r.items := distinct_of_lines hnone hread
  unfold Distinct at hitems ⊢
  rw [keys_tableOf]
  exact hitems

end ApiContract.Toml
