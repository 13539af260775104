/-
Whether a walk arrives, and what keeps it from arriving. In a tree all that is
above something that is there is a directory (`directory_of_isPrefix`), so on
the way to a place there is first a run of directories and then at most one
file, behind which nothing is. Of each way one of three things holds: it leads
to a directory, a file stands on it (`Blocked`), or nothing is at its end
though no file stands on it (`Missing`). A walk into a directory (`enter`)
comes to an end in the first case alone, and its fault tells the other two
apart (`enter_arrival`).

This is for ways that do not go up, whose places are told from their names
alone (`walk_place`).
-/
import ApiContract.Proofs.Files.Access

namespace ApiContract.FileSystem

-- ================================================== statement vocabulary

/-- A file stands on the way to a place, or at it. -/
def Blocked (fs : FileSystem) (place : Place) : Prop :=
  ∃ q content, q <+: place ∧ fs.shape? q = some (some content)

/-- Nothing is at the place, and no file stands on the way to it. -/
structure Missing (fs : FileSystem) (place : Place) : Prop where
  nothing : fs.shape? place = none
  free : ¬ fs.Blocked place

/-- A walk into a directory. -/
def enter (fs : FileSystem) (place : Place) (parts : List String) :
    Except FileFault Place := do
  let place ← fs.walk place parts
  match fs.at? place with
  | some (.directory _) => .ok place
  | some (.file _) => .error .notADirectory
  | none => .error .notFound

/-- What a walk to a directory comes to. -/
inductive Arrival (fs : FileSystem) (place : Place) :
    Except FileFault Place → Prop where
  | directory (h : fs.shape? place = some none) :
      Arrival fs place (.ok place)
  | blocked (h : fs.Blocked place) :
      Arrival fs place (.error .notADirectory)
  | missing (h : fs.Missing place) :
      Arrival fs place (.error .notFound)

/-- The names on a walk. -/
abbrev namesOf (parts : List String) : List String := parts.filter (· ≠ ".")

variable {fs fs' : FileSystem} {place q : Place} {part : String}
  {parts : List String}

-- ================================================================== trees

/-- What is above something that is there is a directory. -/
theorem directory_of_isPrefix (h : (fs.shape? place).isSome)
    (hq : q <+: place) (hne : q ≠ place) : fs.shape? q = some none := by
  obtain ⟨below, rfl⟩ := hq
  cases below with
  | nil => exact absurd (List.append_nil q).symm hne
  | cons k below =>
      by_cases hshape : fs.shape? q = some none
      · exact hshape
      · have hnone : fs.at? (q ++ k :: below) = none := by
          unfold at?
          rw [Entry.at?_append]
          exact Entry.at?_of_shape_ne hshape k below
        rw [shape?_isSome, hnone] at h
        cases h

/-- The way to a directory leads through directories. -/
theorem directory_of_isPrefix_directory (h : fs.shape? place = some none)
    (hq : q <+: place) : fs.shape? q = some none := by
  by_cases hne : q = place
  · rw [hne]
    exact h
  · have hthere : (fs.shape? place).isSome := by
      rw [h]
      rfl
    exact directory_of_isPrefix hthere hq hne

theorem not_blocked_of_directory (h : fs.shape? place = some none) :
    ¬ fs.Blocked place := by
  rintro ⟨q, content, hq, hfile⟩
  rw [directory_of_isPrefix_directory h hq] at hfile
  cases hfile

theorem Blocked.mono (h : fs.Blocked q) (hq : q <+: place) :
    fs.Blocked place := by
  obtain ⟨q', content, hq', hfile⟩ := h
  exact ⟨q', content, hq'.trans hq, hfile⟩

/-- Behind nothing there is nothing. -/
theorem Missing.mono (h : fs.Missing q) (hq : q <+: place) :
    fs.Missing place := by
  have hbehind : ∀ q', q <+: q' → fs.shape? q' = none := by
    intro q' hle
    by_cases hne : q = q'
    · rw [← hne]
      exact h.nothing
    · cases hshape : fs.shape? q' with
      | none => rfl
      | some s =>
          have hthere : (fs.shape? q').isSome := by
            rw [hshape]
            rfl
          have hdirectory := directory_of_isPrefix hthere hle hne
          rw [h.nothing] at hdirectory
          cases hdirectory
  refine ⟨hbehind place hq, ?_⟩
  rintro ⟨q', content, hq', hfile⟩
  rcases List.prefix_or_prefix_of_prefix hq' hq with hle | hle
  · exact h.free ⟨q', content, hle, hfile⟩
  · rw [hbehind q' hle] at hfile
    cases hfile

/-- What is not there in a directory is missing. -/
theorem Missing.of_directory (h : fs.shape? place = some none)
    (hnone : fs.shape? (place ++ [part]) = none) :
    fs.Missing (place ++ [part]) := by
  refine ⟨hnone, ?_⟩
  rintro ⟨q, content, hq, hfile⟩
  rcases List.prefix_concat_iff.1 hq with rfl | hq
  · rw [hnone] at hfile
    cases hfile
  · exact not_blocked_of_directory h ⟨q, content, hq, hfile⟩

-- ================================================================== steps

theorem at?_of_directory (h : fs.shape? place = some none) :
    ∃ entries, fs.at? place = some (.directory entries) :=
  shape?_eq_directory.1 h

theorem at?_of_nothing (h : fs.shape? place = none) : fs.at? place = none := by
  rw [← Option.isNone_iff_eq_none, ← Option.not_isSome, ← shape?_isSome, h]
  rfl

/-- From a file no step leads on. -/
theorem step_of_file {content : Bytes}
    (h : fs.shape? place = some (some content)) :
    fs.step place part = .error .notADirectory := by
  unfold step
  rw [shape?_eq_file.1 h]

/-- A dot stays in a directory. -/
theorem step_dot (h : fs.shape? place = some none) :
    fs.step place "." = .ok place :=
  (step_eq_ok (by decide)).2 ⟨h, .inl ⟨rfl, rfl⟩⟩

/-- A name that is there. -/
theorem step_name (h : fs.shape? place = some none) (hdot : part ≠ ".")
    (hup : part ≠ "..") (hshort : part.utf8ByteSize ≤ 255)
    (hthere : (fs.shape? (place ++ [part])).isSome) :
    fs.step place part = .ok (place ++ [part]) :=
  (step_eq_ok hup).2 ⟨h, .inr ⟨hdot, Nat.not_lt.2 hshort, hthere, rfl⟩⟩

/-- A name that is not there. -/
theorem step_of_missing (h : fs.shape? place = some none)
    (hdot : part ≠ ".") (hup : part ≠ "..") (hshort : part.utf8ByteSize ≤ 255)
    (hmissing : fs.shape? (place ++ [part]) = none) :
    fs.step place part = .error .notFound := by
  obtain ⟨entries, hat⟩ := at?_of_directory h
  have hlookup : (entries.lookup part).isSome = false := by
    rw [← isSome_shape?_concat hat, hmissing]
    rfl
  unfold step
  rw [hat]
  dsimp only
  rw [if_neg hdot, if_neg hup, if_neg (Nat.not_lt.2 hshort), hlookup]
  rfl

-- ================================================================== walks

theorem namesOf_dot : namesOf ("." :: parts) = namesOf parts := rfl

theorem namesOf_name (h : part ≠ ".") :
    namesOf (part :: parts) = part :: namesOf parts :=
  List.filter_cons_of_pos (by simpa using h)

/-- A walk into a directory is a walk that ends in one. -/
theorem enter_eq_ok_iff {place' : Place} : fs.enter place parts = .ok place'
    ↔ fs.walk place parts = .ok place' ∧ fs.shape? place' = some none := by
  unfold enter
  rw [bind_eq_ok]
  constructor
  · rintro ⟨arrived, hwalk, hdirectory⟩
    split at hdirectory
    next entries hat =>
      cases hdirectory
      exact ⟨hwalk, shape?_eq_directory.2 ⟨entries, hat⟩⟩
    all_goals cases hdirectory
  · rintro ⟨hwalk, hdirectory⟩
    obtain ⟨entries, hat⟩ := at?_of_directory hdirectory
    refine ⟨place', hwalk, ?_⟩
    rw [hat]

theorem enter_cons_of_ok {next : Place} (h : fs.step place part = .ok next) :
    fs.enter place (part :: parts) = fs.enter next parts := by
  unfold enter
  rw [walk, h]
  rfl

theorem enter_cons_of_error {fault : FileFault}
    (h : fs.step place part = .error fault) :
    fs.enter place (part :: parts) = .error fault := by
  unfold enter
  rw [walk, h]
  rfl

/-- What a walk into a directory comes to, from something that is there. -/
theorem enter_arrival (hup : ".." ∉ parts)
    (hshort : ∀ n ∈ namesOf parts, n.utf8ByteSize ≤ 255)
    (hthere : (fs.shape? place).isSome) :
    Arrival fs (place ++ namesOf parts) (fs.enter place parts) := by
  induction parts generalizing place with
  | nil =>
      show Arrival fs (place ++ []) _
      rw [List.append_nil]
      obtain ⟨s, hs⟩ := Option.isSome_iff_exists.1 hthere
      cases s with
      | none =>
          rw [enter_eq_ok_iff.2 ⟨rfl, hs⟩]
          exact .directory hs
      | some content =>
          have henter : fs.enter place [] = .error .notADirectory := by
            show (match fs.at? place with
              | some (.directory _) => _ | some (.file _) => _
              | none => _) = _
            rw [shape?_eq_file.1 hs]
          rw [henter]
          exact .blocked ⟨place, content, List.prefix_rfl, hs⟩
  | cons part parts ih =>
      rw [List.mem_cons, not_or] at hup
      obtain ⟨s, hs⟩ := Option.isSome_iff_exists.1 hthere
      cases s with
      | some content =>
          rw [enter_cons_of_error (step_of_file hs)]
          exact .blocked ⟨place, content, List.prefix_append _ _, hs⟩
      | none =>
          by_cases hdot : part = "."
          · subst hdot
            rw [namesOf_dot] at hshort ⊢
            rw [enter_cons_of_ok (step_dot hs)]
            exact ih hup.2 hshort hthere
          · rw [namesOf_name hdot] at hshort ⊢
            obtain ⟨hname, hnames⟩ := List.forall_mem_cons.1 hshort
            rw [List.append_cons]
            cases hnext : fs.shape? (place ++ [part]) with
            | some s =>
                have hnext' : (fs.shape? (place ++ [part])).isSome := by
                  rw [hnext]
                  rfl
                rw [enter_cons_of_ok
                  (step_name hs hdot (Ne.symm hup.1) hname hnext')]
                exact ih hup.2 hnames hnext'
            | none =>
                rw [enter_cons_of_error
                  (step_of_missing hs hdot (Ne.symm hup.1) hname hnext)]
                have hmissing := Missing.of_directory hs hnext
                exact .missing (hmissing.mono (List.prefix_append _ _))

-- ================================================================= arrivals

variable {r : Except FileFault Place}

theorem Arrival.eq_ok (h : Arrival fs place r)
    (hplace : fs.shape? place = some none) : r = .ok place := by
  cases h with
  | directory => rfl
  | blocked hblocked =>
      exact absurd hblocked (not_blocked_of_directory hplace)
  | missing hmissing =>
      rw [hmissing.nothing] at hplace
      cases hplace

theorem Arrival.eq_notADirectory (h : Arrival fs place r)
    (hplace : fs.Blocked place) : r = .error .notADirectory := by
  cases h with
  | directory hdirectory =>
      exact absurd hplace (not_blocked_of_directory hdirectory)
  | blocked => rfl
  | missing hmissing => exact absurd hplace hmissing.free

theorem Arrival.eq_notFound (h : Arrival fs place r)
    (hplace : fs.Missing place) : r = .error .notFound := by
  cases h with
  | directory hdirectory =>
      rw [hplace.nothing] at hdirectory
      cases hdirectory
  | blocked hblocked => exact absurd hblocked hplace.free
  | missing => rfl

end ApiContract.FileSystem
