/-
Paths without the names that they take back. What is left of a path when each
`..` has taken back the name in front of it are the ups that found nothing to
take back, and names; of an absolute path no up is left, as the root is its
own parent (`Normal`, `normal`). One path inside another takes back names of
that one as far as there are any (`Normal.enter`, `normal_join`), so the join
is below the outer path only if the inner one names again all that it takes
back, and goes on (`strictlyBelow_join`); one that never goes up, and names
something, does (`staysInside_of_isDownward`).

In a tree without links a walk that arrives has arrived where the path without
the names taken back leads (`walk_place_normal`): a part that goes up is
refused where the name in front of it is no directory, so nothing is taken
back that was not walked.
-/
import ApiContract.Proofs.Files.Tree

namespace ApiContract

namespace Path

-- ================================================== statement vocabulary

/-- What is left of a path: how many ups in front, and the names. -/
structure Normal where
  isAbsolute : Bool
  ups : Nat
  names : List String
  deriving DecidableEq, Repr

/-- One more name, or one up. -/
def Normal.push (n : Normal) (part : String) : Normal :=
  if part ≠ ".." then { n with names := n.names ++ [part] }
  else if n.names ≠ [] then { n with names := n.names.dropLast }
  else if n.isAbsolute then n
  else { n with ups := n.ups + 1 }

/-- What is left of a path when each up has taken a name back. -/
def normal (p : String) : Normal :=
  (names p).foldl Normal.push ⟨isAbsolute p, 0, []⟩

/-- The path is the other one with further names. -/
def StrictlyBelow (p d : String) : Prop :=
  ∃ rest, rest ≠ []
    ∧ normal p = { normal d with names := (normal d).names ++ rest }

/-- Inside the other path, the path names again what it takes back of it, and
goes on. -/
def StaysInside (d f : String) : Prop :=
  ((normal d).isAbsolute = true ∨ (normal f).ups ≤ (normal d).names.length)
    ∧ ∃ rest, rest ≠ [] ∧ (normal f).names
      = (normal d).names.drop ((normal d).names.length - (normal f).ups) ++ rest

end Path

/-- The place that a path leads to: names go down, and an up takes the last
one back, those of the place where relative paths begin included. -/
def FileSystem.resolve (fs : FileSystem) (p : String) : Place :=
  ((Path.names p).foldl Path.Normal.push
    ⟨true, 0, if Path.isAbsolute p then [] else fs.working⟩).names

/-- The place is below the one that the directory leads to. -/
def FileSystem.InDirectory (fs : FileSystem) (d : String) (q : Place) : Prop :=
  ∃ rest, rest ≠ [] ∧ q = fs.resolve d ++ rest

-- ================================================================= joins

namespace Path.Normal

/-- A relative path inside another one takes back names of that one. -/
def enter (n m : Normal) : Normal where
  isAbsolute := n.isAbsolute
  ups := if n.isAbsolute then n.ups else n.ups + (m.ups - n.names.length)
  names := n.names.take (n.names.length - m.ups) ++ m.names

variable {n m : Normal}

theorem push_isAbsolute (n : Normal) (part : String) :
    (n.push part).isAbsolute = n.isAbsolute := by
  unfold push
  repeat' split
  all_goals rfl

/-- At the root an up stays where it is. -/
theorem push_root (place : List String) (part : String) :
    push ⟨true, 0, place⟩ part = ⟨true, 0,
      if part = ".." then place.dropLast else place ++ [part]⟩ := by
  unfold push
  by_cases hpart : part = ".."
  case neg => simp only [hpart, ne_eq, not_false_eq_true, if_true, if_false]
  case pos =>
    cases place with
    | nil => simp [hpart]
    | cons name place => simp [hpart]

theorem enter_empty (n : Normal) : n.enter ⟨false, 0, []⟩ = n := by
  unfold enter
  simp

theorem dropLast_take_of_le {α : Type} {l : List α} {k : Nat}
    (h : k ≤ l.length) : (l.take k).dropLast = l.take (k - 1) := by
  rw [List.dropLast_eq_take, List.take_take, List.length_take,
    Nat.min_eq_left h, Nat.min_eq_left (Nat.sub_le k 1)]

/-- An up inside a path that names nothing takes back a name of the outer
path, if one is left. -/
theorem push_enter_up (hnames : m.names = []) :
    (n.enter m).push ".." = n.enter { m with ups := m.ups + 1 } := by
  by_cases hleft : m.ups < n.names.length
  case pos =>
    -- one name less is left of the outer path, and no up in front of it
    have hne : n.names.take (n.names.length - m.ups) ≠ [] := by
      rw [ne_eq, List.take_eq_nil_iff, not_or, ← List.length_eq_zero_iff]
      omega
    have hcount : m.ups - n.names.length = m.ups + 1 - n.names.length := by
      omega
    have hfewer : n.names.length - (m.ups + 1)
        = n.names.length - m.ups - 1 := by omega
    unfold push enter
    simp only [hnames, List.append_nil, ne_eq, not_true_eq_false, hne,
      not_false_eq_true, if_true, if_false, hcount, hfewer]
    rw [dropLast_take_of_le (Nat.sub_le _ _)]
  case neg =>
    -- no name is left, so the up goes in front, unless there is the root
    have hnone : n.names.length - m.ups = 0 := by omega
    have hnone' : n.names.length - (m.ups + 1) = 0 := by omega
    have hcount : m.ups + 1 - n.names.length = m.ups - n.names.length + 1 := by
      omega
    unfold push enter
    simp only [hnames, hnone, hnone', hcount, List.take_zero, List.append_nil,
      ne_eq, not_true_eq_false, if_false]
    split
    · rfl
    · rfl

theorem push_enter (hm : m.isAbsolute = false) (part : String) :
    (n.enter m).push part = n.enter (m.push part) := by
  by_cases hpart : part = ".."
  case neg =>
    unfold push enter
    simp only [hpart, ne_eq, not_false_eq_true, if_true, List.append_assoc]
  case pos =>
    subst hpart
    by_cases hnames : m.names = []
    case neg =>
      unfold push enter
      simp only [hnames, ne_eq, not_true_eq_false, not_false_eq_true,
        if_true, if_false, List.append_eq_nil_iff, and_false,
        List.dropLast_append_of_ne_nil]
    case pos =>
      rw [push_enter_up hnames]
      unfold push
      simp only [hnames, hm, ne_eq, not_true_eq_false, if_false,
        Bool.false_eq_true]

theorem foldl_push_enter (hm : m.isAbsolute = false) (parts : List String) :
    parts.foldl push (n.enter m) = n.enter (parts.foldl push m) := by
  induction parts generalizing m with
  | nil => rfl
  | cons part parts ih =>
      rw [List.foldl_cons, List.foldl_cons, push_enter hm,
        ih ((push_isAbsolute m part).trans hm)]

/-- Going on with the names of a relative path is entering it. -/
theorem foldl_push_names {p : String} (hp : Path.isAbsolute p = false)
    (n : Normal) : (Path.names p).foldl push n = n.enter (normal p) := by
  have hfold := foldl_push_enter (n := n) (m := ⟨false, 0, []⟩) rfl
    (Path.names p)
  rw [enter_empty] at hfold
  unfold normal
  rw [hp]
  exact hfold

end Path.Normal

namespace Path

theorem normal_isAbsolute (p : String) :
    (normal p).isAbsolute = isAbsolute p := by
  have hfold : ∀ (parts : List String) (n : Normal),
      (parts.foldl Normal.push n).isAbsolute = n.isAbsolute := by
    intro parts
    induction parts with
    | nil => exact fun _ => rfl
    | cons part parts ih =>
        exact fun n => (ih _).trans (n.push_isAbsolute part)
  exact hfold _ _

theorem normal_join {d f : String} (hf : isAbsolute f = false) :
    normal (join d f) = (normal d).enter (normal f) := by
  obtain ⟨hnames, habs⟩ := names_join (p := d) hf
  rw [← Normal.foldl_push_names hf]
  unfold normal
  rw [hnames, habs, List.foldl_append]

/-- A join is below the outer path exactly when the inner one stays inside. -/
theorem strictlyBelow_join {d f : String} (hf : isAbsolute f = false) :
    StrictlyBelow (join d f) d ↔ StaysInside d f := by
  unfold StrictlyBelow StaysInside
  rw [normal_join hf]
  generalize normal d = n
  generalize normal f = m
  have hnames : ∀ rest, n.names.take (n.names.length - m.ups) ++ m.names
      = n.names ++ rest
      ↔ m.names = n.names.drop (n.names.length - m.ups) ++ rest := by
    intro rest
    have hsplit : n.names ++ rest = n.names.take (n.names.length - m.ups)
        ++ (n.names.drop (n.names.length - m.ups) ++ rest) := by
      rw [← List.append_assoc, List.take_append_drop]
    rw [hsplit, List.append_cancel_left_eq]
  have hups : (if n.isAbsolute then n.ups
      else n.ups + (m.ups - n.names.length)) = n.ups
      ↔ n.isAbsolute = true ∨ m.ups ≤ n.names.length := by
    split
    case isTrue habs => exact iff_of_true rfl (.inl habs)
    case isFalse habs =>
      rw [or_iff_right habs]
      omega
  unfold Normal.enter
  simp only [Normal.mk.injEq, true_and, hups, hnames]
  constructor
  · rintro ⟨rest, hne, hback, hrest⟩
    exact ⟨hback, rest, hne, hrest⟩
  · rintro ⟨hback, rest, hne, hrest⟩
    exact ⟨rest, hne, hback, hrest⟩

/-- Without an up nothing is taken back. -/
theorem normal_of_isDownward {p : String} (hp : IsDownward p) :
    normal p = ⟨isAbsolute p, 0, names p⟩ := by
  have hfold : ∀ (parts : List String) (n : Normal), ".." ∉ parts →
      parts.foldl Normal.push n = { n with names := n.names ++ parts } := by
    intro parts
    induction parts with
    | nil => exact fun n _ => by rw [List.foldl_nil, List.append_nil]
    | cons part parts ih =>
        intro n hup
        rw [List.mem_cons, not_or] at hup
        rw [List.foldl_cons, ih _ hup.2]
        unfold Normal.push
        rw [if_pos (Ne.symm hup.1), List.append_assoc]
        rfl
  exact hfold _ _ (isDownward_iff.1 hp)

/-- A path that names something, and never goes up, stays inside. -/
theorem staysInside_of_isDownward {f : String} (d : String)
    (hf : IsDownward f) (hne : names f ≠ []) : StaysInside d f := by
  unfold StaysInside
  rw [normal_of_isDownward hf]
  refine ⟨.inr (Nat.zero_le _), names f, hne, ?_⟩
  rw [Nat.sub_zero, List.drop_length, List.nil_append]

end Path

-- =============================================================== walking

namespace FileSystem

variable {fs : FileSystem}

/-- A walk that arrives has arrived where its parts lead. -/
theorem walk_place_normal {place place' : Place} {parts : List String}
    (h : fs.walk place parts = .ok place') :
    (parts.filter (· ≠ ".")).foldl Path.Normal.push ⟨true, 0, place⟩
      = ⟨true, 0, place'⟩ := by
  induction parts generalizing place with
  | nil =>
      cases h
      rfl
  | cons part parts ih =>
      obtain ⟨next, hstep, hwalk⟩ := walk_cons.1 h
      by_cases hup : part = ".."
      case pos =>
        -- only a directory leads up, and so its own name is taken back
        obtain ⟨entries, hat⟩ := directory_of_step hstep
        unfold step at hstep
        rw [hat] at hstep
        subst hup
        cases hstep
        rw [List.filter_cons_of_pos (by decide), List.foldl_cons,
          Path.Normal.push_root]
        exact ih hwalk
      case neg =>
        obtain ⟨-, ⟨rfl, rfl⟩ | ⟨hdot, -, -, rfl⟩⟩ :=
          (step_eq_ok hup).1 hstep
        · exact ih hwalk
        · rw [List.filter_cons_of_pos (by simpa using hdot), List.foldl_cons,
            Path.Normal.push_root, if_neg hup]
          exact ih hwalk

/-- What a route leads to is the place of its path. -/
theorem Leads.resolve_eq {p : String} {r : Route} {place : Place}
    {name : String} (h : Leads fs p r place name) :
    place ++ [name] = fs.resolve p := by
  obtain ⟨hstart, hnames⟩ := route_eq_ok h.route
  have hlast : [name].filter (· ≠ ".") = [name] := by
    simpa using h.ne_dot
  rw [h.last, Option.toList_some, List.filter_append, hlast] at hnames
  unfold resolve
  rw [← hstart, ← hnames, List.foldl_append, walk_place_normal h.walk,
    List.foldl_cons, Path.Normal.push_root, if_neg h.ne_up]
  rfl

/-- The ups that are left of a relative path take back names of the place
where it begins. -/
theorem resolve_eq_normal (fs : FileSystem) (p : String) :
    fs.resolve p = (if Path.isAbsolute p then []
      else fs.working.take (fs.working.length - (Path.normal p).ups))
        ++ (Path.normal p).names := by
  unfold resolve
  cases habs : Path.isAbsolute p with
  | true =>
      unfold Path.normal
      rw [habs]
      rfl
  | false =>
      rw [Path.Normal.foldl_push_names habs]
      rfl

/-- What is below a path leads to a place below its. -/
theorem inDirectory_of_strictlyBelow {p d : String} (fs : FileSystem)
    (h : Path.StrictlyBelow p d) : fs.InDirectory d (fs.resolve p) := by
  obtain ⟨rest, hne, hnormal⟩ := h
  have habs : Path.isAbsolute p = Path.isAbsolute d := by
    rw [← Path.normal_isAbsolute p, hnormal]
    exact Path.normal_isAbsolute d
  refine ⟨rest, hne, ?_⟩
  rw [resolve_eq_normal, resolve_eq_normal, habs, hnormal, List.append_assoc]

end FileSystem

end ApiContract
