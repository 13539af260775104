/-
Which texts the system takes for paths. A text with a NUL, a text that is too
long, and one with a name that is too long are refused whatever the tree is
like; a text that goes on behind its last name, with a slash or a dot, names no
file. What passes names the same place in every tree.

A parent's text is an initial part of the path's own (`toList_parent?`), so
what is admitted has admitted parents only, and behind the last name of a
parent nothing is left (`endsInName_parent?`).
-/
import ApiContract.Proofs.Files.Walk

namespace ApiContract

namespace Path

-- ================================================== statement vocabulary

/-- The system takes the text for a path. -/
structure Admitted (p : String) : Prop where
  no_nul : '\x00' ∉ p.toList
  short : p.utf8ByteSize ≤ 4095
  short_names : ∀ n ∈ names p, n.utf8ByteSize ≤ 255

/-- The text ends with a name. -/
def EndsInName (p : String) : Prop :=
  ∃ s, (segments p.toList).getLast? = some s ∧ isSilent s = false

/-- The system takes the text for a path under which a file can stand. -/
structure NamesFile (p : String) : Prop extends Admitted p where
  ends : EndsInName p

/-- The system takes the text for a path with nothing behind its last name, if
it has one. -/
structure Plain (p : String) : Prop extends Admitted p where
  ends : names p ≠ [] → EndsInName p

-- ================================================================ parents

variable {p d : String}

/-- The text of a parent is an initial part of the path. -/
theorem toList_parent? (h : parent? p = some d) : d.toList <+: p.toList := by
  unfold parent? at h
  dsimp only at h
  split at h
  next last before hreverse =>
    cases h
    have htext := unsegment_isPrefix (trimSilent_before_isPrefix hreverse)
    rw [unsegment_segments] at htext
    obtain ⟨rest, hrest⟩ := htext
    refine ⟨rest, ?_⟩
    rw [String.toList_ofList, List.append_assoc, hrest, List.take_append_drop]
  next =>
    split at h
    case isTrue =>
      cases h
      exact List.nil_prefix
    case isFalse => cases h

/-- Only a path without names has no parent. -/
theorem names_of_parent?_eq_none (h : parent? p = none) : names p = [] := by
  unfold parent? at h
  dsimp only at h
  split at h
  case h_1 => cases h
  case h_2 hreverse =>
    unfold names
    rw [spoken_eq_nil hreverse]
    rfl

/-- A parent is shorter than its path. -/
theorem length_parent?_lt (hp : p ≠ "") (h : parent? p = some d) :
    d.toList.length < p.toList.length := by
  have hinitial := toList_parent? h
  refine Nat.lt_of_le_of_ne hinitial.length_le fun hlength => ?_
  have htext : d = p := String.toList_inj.1 (hinitial.eq_of_length hlength)
  subst htext
  obtain ⟨-, ⟨-, hempty⟩ | ⟨last, hlast⟩⟩ := parent?_eq_some h
  · exact hp hempty
  · exact List.cons_ne_nil last [] (List.self_eq_append_right.1 hlast)

/-- A text whose last part is empty ends with a slash. -/
theorem slash_of_getLast?_segments {cs : List Char}
    (h : (segments cs).getLast? = some []) :
    cs = [] ∨ cs.getLast? = some '/' := by
  induction cs with
  | nil => exact .inl rfl
  | cons c cs ih =>
      have hbehind : cs.getLast? = some '/' →
          (c :: cs).getLast? = some '/' := by
        intro hlast
        rw [List.getLast?_cons, hlast]
        rfl
      by_cases hc : c = '/'
      · obtain ⟨s, ss, hcs⟩ :=
          List.exists_cons_of_ne_nil (segments_ne_nil cs)
        rw [hc, segments_slash, hcs, List.getLast?_cons_cons, ← hcs] at h
        rcases ih h with rfl | hlast
        · rw [hc]
          exact .inr rfl
        · exact .inr (hbehind hlast)
      · obtain ⟨s, ss, hcs, hccs⟩ := segments_cons hc cs
        rw [hccs] at h
        cases ss with
        | nil => cases h
        | cons t ts =>
            rw [List.getLast?_cons_cons] at h
            have hlast : (segments cs).getLast? = some [] := by
              rw [hcs, List.getLast?_cons_cons, h]
            rcases ih hlast with rfl | hlast
            · cases hcs
            · exact .inr (hbehind hlast)

/-- The last part that is left is not silent. -/
theorem getLast?_trimSilent {ss : List (List Char)} {s : List Char}
    (h : (trimSilent ss).getLast? = some s) : isSilent s = false := by
  obtain ⟨before, hbefore⟩ := List.getLast?_eq_some_iff.1 h
  refine @isSilent_of_trimSilent ss before.reverse s ?_
  rw [hbefore, List.reverse_append]
  rfl

/-- The last part of a text that says something stands behind its lead. -/
theorem getLast?_segments_lead {cs x : List Char}
    (hx : x <+: cs.drop (leadLength cs)) (hspoken : spoken x ≠ []) :
    (segments (cs.take (leadLength cs) ++ x)).getLast?
      = (segments x).getLast? := by
  have hbehind : ∀ (l : List (List Char)) (y : List Char),
      (l ++ segments y).getLast? = (segments y).getLast? := by
    intro l y
    rw [List.getLast?_append, List.getLast?_eq_some_getLast (segments_ne_nil y)]
    rfl
  rcases lead_cases cs with ⟨rest, rfl, hn⟩ | ⟨rest, rfl, hrest, hn⟩ | ⟨hn, -⟩
  · rw [hn]
    show (segments ('/' :: x)).getLast? = _
    rw [segments_slash]
    exact hbehind [[]] x
  · rw [hn] at hx ⊢
    rcases nil_or_slash_of_isPrefix hx hrest with rfl | ⟨y, rfl⟩
    · exact absurd rfl hspoken
    · show (segments (['.'] ++ '/' :: y)).getLast? = _
      rw [segments_append_slash, segments_slash, hbehind]
      exact (hbehind [[]] y).symm
  · rw [hn, List.take_zero, List.nil_append]

/-- A parent ends with a name, if it has names at all. -/
theorem endsInName_parent? (h : parent? p = some d) (hd : names d ≠ []) :
    EndsInName d := by
  unfold parent? at h
  dsimp only at h
  split at h
  case h_1 last before hreverse =>
    cases h
    have hkept := trimSilent_before_isPrefix hreverse
    have htext := unsegment_isPrefix hkept
    rw [unsegment_segments] at htext
    unfold names at hd
    rw [String.toList_ofList, spoken_lead htext] at hd
    have hspoken : spoken (unsegment (trimSilent before.reverse)) ≠ [] :=
      fun hnil => hd (by rw [hnil]; rfl)
    have hne : trimSilent before.reverse ≠ [] := by
      intro hnil
      rw [hnil] at hspoken
      exact hspoken rfl
    have hs := List.getLast?_eq_some_getLast hne
    refine ⟨_, ?_, getLast?_trimSilent hs⟩
    rw [String.toList_ofList, getLast?_segments_lead htext hspoken,
      segments_unsegment hne fun t ht =>
        no_slash_of_mem_segments (hkept.subset ht), hs]
  case h_2 hreverse =>
    split at h
    case isTrue =>
      cases h
      exact absurd rfl hd
    case isFalse => cases h

theorem Admitted.parent (hp : Admitted p) (h : parent? p = some d) :
    Plain d := by
  have hinitial := toList_parent? h
  refine ⟨⟨fun hnul => hp.no_nul (List.IsPrefix.subset hinitial hnul), ?_, ?_⟩,
    endsInName_parent? h⟩
  · obtain ⟨rest, hrest⟩ := hinitial
    have htext : p = d ++ String.ofList rest := by
      rw [← String.toList_inj, String.toList_append, String.toList_ofList,
        hrest]
    have hshort := hp.short
    rw [htext, String.utf8ByteSize_append] at hshort
    omega
  · intro n hn
    refine hp.short_names n ?_
    obtain ⟨-, ⟨-, rfl⟩ | ⟨last, hlast⟩⟩ := parent?_eq_some h
    · cases hn
    · rw [hlast]
      exact List.mem_append_left _ hn

theorem Plain.namesFile (hp : Plain p) (hnames : names p ≠ []) :
    NamesFile p :=
  ⟨hp.toAdmitted, hp.ends hnames⟩

/-- A file's path has names. -/
theorem NamesFile.names_ne_nil (hp : NamesFile p) : names p ≠ [] := by
  obtain ⟨s, hs, hspoken⟩ := hp.ends
  intro hnil
  have hmem : s ∈ spoken p.toList :=
    List.mem_filter.2 ⟨List.mem_of_getLast? hs, by rw [hspoken]; rfl⟩
  rw [List.map_eq_nil_iff.1 hnil] at hmem
  cases hmem

end Path

namespace FileSystem

open ApiContract.Path (Admitted EndsInName NamesFile IsDownward)

variable {fs : FileSystem} {p : String} {r : Route}

-- ================================================================= routes

/-- An admitted text describes a way. -/
theorem exists_route (fs : FileSystem) (hp : Admitted p) (hne : p ≠ "") :
    ∃ r, fs.route p = .ok r := by
  have hnul : ¬ p.toList.contains '\x00' = true := by
    rw [List.contains_iff_mem]
    exact hp.no_nul
  have hempty : ¬ p.isEmpty = true := by
    rw [String.isEmpty_iff]
    exact hne
  unfold route
  rw [if_neg hnul, if_neg hempty, if_neg (Nat.not_lt.2 hp.short)]
  exact ⟨_, rfl⟩

/-- A way leads to the place of its path. -/
theorem placeOf_of_route (h : fs.route p = .ok r) :
    fs.placeOf p = r.start ++ namesOf (r.before ++ r.last.toList) := by
  obtain ⟨hstart, hnames⟩ := route_eq_ok h
  unfold placeOf
  rw [hstart, ← hnames]

theorem not_up_of_route (h : fs.route p = .ok r) (hdown : IsDownward p) :
    ".." ∉ r.before ++ r.last.toList := by
  intro hup
  obtain ⟨-, hnames⟩ := route_eq_ok h
  refine Path.isDownward_iff.1 hdown ?_
  rw [← hnames]
  exact List.mem_filter.2 ⟨hup, by decide⟩

theorem short_of_route (h : fs.route p = .ok r) (hp : Admitted p) :
    ∀ n ∈ namesOf (r.before ++ r.last.toList), n.utf8ByteSize ≤ 255 := by
  obtain ⟨-, hnames⟩ := route_eq_ok h
  intro n hn
  apply hp.short_names
  rw [← hnames]
  exact hn

/-- Ways begin in directories when relative paths do. -/
theorem start_of_route (h : fs.route p = .ok r)
    (hworking : fs.shape? fs.working = some none) :
    fs.shape? r.start = some none := by
  obtain ⟨hstart, -⟩ := route_eq_ok h
  rw [hstart]
  split
  · exact directory_of_isPrefix_directory hworking List.nil_prefix
  · exact hworking

/-- A text that ends with a name describes a way that does, with no slash
behind it. -/
theorem last_of_route (h : fs.route p = .ok r) (hp : EndsInName p) :
    ∃ name, r.last = some name ∧ name ≠ "." ∧ r.closed = false := by
  obtain ⟨s, hs, hspoken⟩ := hp
  obtain ⟨before, hsegments⟩ := List.getLast?_eq_some_iff.1 hs
  unfold Path.isSilent at hspoken
  rw [Bool.or_eq_false_iff] at hspoken
  have hkept : (Path.segments p.toList).filter (!·.isEmpty)
      = before.filter (!·.isEmpty) ++ [s] := by
    rw [hsegments, List.filter_append, List.filter_cons_of_pos (by
      rw [hspoken.1]
      rfl), List.filter_nil]
  unfold route at h
  iterate 3
    split at h
    · cases h
  cases h
  refine ⟨String.ofList s, ?_, ?_, ?_⟩
  · dsimp only
    rw [hkept, List.map_append, List.map_singleton, List.getLast?_concat]
  · intro hdot
    have hlist : s = ['.'] := by
      rw [← String.toList_inj, String.toList_ofList] at hdot
      exact hdot
    rw [hlist] at hspoken
    cases hspoken.2
  · dsimp only
    rw [decide_eq_false_iff_not]
    intro hslash
    -- behind a slash at the end there is only an empty part
    obtain ⟨front, hfront⟩ := List.getLast?_eq_some_iff.1 hslash
    rw [hfront, Path.segments_append_slash, List.getLast?_append] at hs
    cases hs
    cases hspoken.1

variable {content : Bytes}

-- ======================================================== what is admitted

/-- A way is walked only by names that are short enough. -/
theorem short_of_walk {place place' : Place} {parts : List String}
    (hup : ".." ∉ parts) (h : fs.walk place parts = .ok place') :
    ∀ n ∈ namesOf parts, n.utf8ByteSize ≤ 255 := by
  induction parts generalizing place with
  | nil =>
      intro n hn
      cases hn
  | cons part parts ih =>
      obtain ⟨next, hstep, hwalk⟩ := walk_cons.1 h
      rw [List.mem_cons, not_or] at hup
      obtain ⟨-, ⟨rfl, rfl⟩ | ⟨hdot, hshort, -, rfl⟩⟩ :=
        (step_eq_ok (Ne.symm hup.1)).1 hstep
      · rw [namesOf_dot]
        exact ih hup.2 hwalk
      · rw [namesOf_name hdot, List.forall_mem_cons]
        exact ⟨Nat.not_lt.1 hshort, ih hup.2 hwalk⟩

/-- A way that ends with a name, and no slash, comes from a text that does. -/
theorem endsInName_of_route (h : fs.route p = .ok r) {name : String}
    (hlast : r.last = some name) (hdot : name ≠ ".")
    (hclosed : r.closed = false) : EndsInName p := by
  have hs := List.getLast?_eq_some_getLast (Path.segments_ne_nil p.toList)
  generalize (Path.segments p.toList).getLast _ = s at hs
  refine ⟨s, hs, ?_⟩
  unfold route at h
  split at h
  case isTrue => cases h
  split at h
  case isTrue => cases h
  case isFalse hempty =>
  split at h
  case isTrue => cases h
  cases h
  dsimp only at hlast hclosed
  cases hsilent : Path.isSilent s with
  | false => rfl
  | true =>
      unfold Path.isSilent at hsilent
      rw [Bool.or_eq_true, List.isEmpty_iff, beq_iff_eq] at hsilent
      rcases hsilent with rfl | rfl
      · rw [decide_eq_false_iff_not] at hclosed
        rcases Path.slash_of_getLast?_segments hs with hnil | hslash
        · exact absurd (String.isEmpty_iff.2 (String.toList_eq_nil_iff.1 hnil))
            hempty
        · exact absurd hslash hclosed
      · obtain ⟨before, hsegments⟩ := List.getLast?_eq_some_iff.1 hs
        rw [hsegments, List.filter_append, List.map_append,
          List.getLast?_append] at hlast
        exact absurd (Option.some.inj hlast).symm hdot

theorem limits_of_route (h : fs.route p = .ok r) :
    '\x00' ∉ p.toList ∧ p.utf8ByteSize ≤ 4095 := by
  unfold route at h
  split at h
  case isTrue => cases h
  case isFalse hnul =>
  split at h
  case isTrue => cases h
  split at h
  case isTrue => cases h
  case isFalse hshort =>
  rw [List.contains_iff_mem] at hnul
  exact ⟨hnul, Nat.not_lt.1 hshort⟩

/-- A file is made only under a path that names one. -/
theorem namesFile_of_create {fs' : FileSystem} (hdown : IsDownward p)
    (h : fs.create p content = .ok fs') : NamesFile p := by
  obtain ⟨r, place, name, hleads, hclosed, -, -⟩ := create_cases h
  have hup := not_up_of_route hleads.route hdown
  rw [hleads.last, List.mem_append, not_or] at hup
  obtain ⟨hnul, hlength⟩ := limits_of_route hleads.route
  obtain ⟨-, hnames⟩ := route_eq_ok hleads.route
  refine ⟨⟨hnul, hlength, ?_⟩, endsInName_of_route hleads.route hleads.last
    hleads.ne_dot hclosed⟩
  intro n hn
  rw [← hnames, hleads.last, List.filter_append, List.mem_append] at hn
  rcases hn with hn | hn
  · exact short_of_walk hup.1 hleads.walk n hn
  · rw [List.mem_singleton.1 (List.mem_filter.1 hn).1]
    exact Nat.not_lt.1 hleads.short

end FileSystem

end ApiContract
