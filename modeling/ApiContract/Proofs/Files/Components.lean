/-
Paths by their components. A path has its lead in front, the root or a dot of
its own, and then one component for each part that is not silent. What the
operations on texts do to paths is told by what they do to components:

- a parent has the components of its path but for the last
  (`components_parent?`), and only a path without components, or the root
  alone, has none (`components_of_parent?_eq_none`);
- a join has the components of both paths, if the second one has no lead and
  the first one is there (`components_join`).

So a path that is split into a directory and a name is put together again from
them, a path of one component behind a dot (`components_join_split?`).
-/
import ApiContract.Proofs.Files.Path

namespace ApiContract.Path

-- ================================================== statement vocabulary

/-- The component in front of all parts: the root, or the dot that a relative
path begins with, if any. -/
def lead (p : String) : List Component :=
  if isAbsolute p then [.root]
  else if leadsWithDot p.toList then [.current]
  else []

/-- A text that is one name in a path. -/
structure IsName (f : String) : Prop where
  not_empty : f ≠ ""
  no_slash : '/' ∉ f.toList
  not_current : f ≠ "."
  not_up : f ≠ ".."

-- ================================================================== lead

theorem components_eq (p : String) :
    components p = lead p ++ (spoken p.toList).map .ofSegment :=
  rfl

/-- The lead is decided by how the path begins. -/
theorem lead_congr {p q : String} (hroot : isAbsolute q = isAbsolute p)
    (hdot : leadsWithDot q.toList = leadsWithDot p.toList) :
    lead q = lead p := by
  unfold lead
  rw [hroot, hdot]

theorem lead_eq_nil_iff {p : String} :
    lead p = [] ↔ isAbsolute p = false ∧ leadsWithDot p.toList = false := by
  unfold lead
  cases isAbsolute p <;> cases leadsWithDot p.toList <;> simp

/-- A lead that is no root is a dot. -/
theorem lead_eq_current_iff {p : String} :
    lead p = [.current]
      ↔ leadLength p.toList = 1 ∧ isAbsolute p = false := by
  unfold lead leadLength isAbsolute
  by_cases hroot : p.toList.head? = some '/'
  · simp [hroot]
  · cases leadsWithDot p.toList <;> simp [hroot]

theorem lead_eq_cases (p : String) :
    lead p = [] ∨ lead p = [.root] ∨ lead p = [.current] := by
  unfold lead
  split
  · exact .inr (.inl rfl)
  · split
    · exact .inr (.inr rfl)
    · exact .inl rfl

/-- What stands behind a slash has no part in the first one. -/
theorem leadsWithDot_append_slash (a b : List Char) :
    leadsWithDot (a ++ '/' :: b) = leadsWithDot a := by
  obtain ⟨s, ss, ha⟩ := List.exists_cons_of_ne_nil (segments_ne_nil a)
  unfold leadsWithDot
  rw [segments_append_slash, ha]
  rfl

theorem leadsWithDot_dot {b : List Char} (h : b = [] ∨ ∃ c, b = '/' :: c) :
    leadsWithDot ('.' :: b) = true := by
  rcases h with rfl | ⟨c, rfl⟩
  · rfl
  · exact leadsWithDot_append_slash ['.'] c

/-- First parts begin with no dot of their own if the text does not. -/
theorem leadsWithDot_unsegment {cs : List Char} {l : List (List Char)}
    (h : leadsWithDot cs = false) (hl : l <+: segments cs) :
    leadsWithDot (unsegment l) = false := by
  cases l with
  | nil => rfl
  | cons s ss =>
      obtain ⟨rest, hrest⟩ := hl
      have hparts : ∀ t ∈ s :: ss, '/' ∉ t := fun t ht =>
        no_slash_of_mem_segments (hrest ▸ List.mem_append_left rest ht)
      unfold leadsWithDot at h ⊢
      rw [segments_unsegment (List.cons_ne_nil s ss) hparts]
      rw [← hrest] at h
      exact h

/-- The first parts behind the lead begin as the path does. -/
theorem leadsWithDot_lead {cs : List Char} {l : List (List Char)}
    (hl : l <+: segments (cs.drop (leadLength cs))) :
    leadsWithDot (cs.take (leadLength cs) ++ unsegment l)
      = leadsWithDot cs := by
  have htext : unsegment l <+: cs.drop (leadLength cs) := by
    have hprefix := unsegment_isPrefix hl
    rwa [unsegment_segments] at hprefix
  rcases lead_cases cs with ⟨rest, rfl, hn⟩ | ⟨rest, rfl, hrest, hn⟩ | ⟨hn, -⟩
  · rw [hn]
    exact (leadsWithDot_append_slash [] _).trans
      (leadsWithDot_append_slash [] _).symm
  · rw [hn] at htext ⊢
    exact (leadsWithDot_dot (nil_or_slash_of_isPrefix htext hrest)).trans
      (leadsWithDot_dot hrest).symm
  · have hdot : leadsWithDot cs = false := by
      unfold leadLength at hn
      cases hdot : leadsWithDot cs with
      | false => rfl
      | true => simp [hdot] at hn
    rw [hn] at hl ⊢
    exact (leadsWithDot_unsegment hdot hl).trans hdot.symm

-- =============================================================== parents

/-- A path that says nothing is its lead. -/
theorem components_of_spoken_eq_nil {p : String}
    (h : spoken p.toList = []) : components p = lead p := by
  rw [components_eq, h, List.map_nil, List.append_nil]

/-- A parent lacks the last component of its path. -/
theorem components_parent? {p q : String} (h : parent? p = some q) :
    ∃ last, components p = components q ++ [last] := by
  unfold parent? at h
  dsimp only at h
  split at h
  case h_1 last before hreverse =>
    cases h
    obtain ⟨hhead, hspoken⟩ := spoken_parent hreverse
    refine ⟨.ofSegment last, ?_⟩
    rw [components_eq, components_eq, hspoken, String.toList_ofList,
      List.map_append, ← List.append_assoc]
    refine congrArg (· ++ _ ++ _) (lead_congr ?_ ?_).symm
    · refine isAbsolute_congr ?_
      rw [String.toList_ofList]
      exact hhead
    · rw [String.toList_ofList]
      exact leadsWithDot_lead (trimSilent_before_isPrefix hreverse)
  case h_2 hreverse =>
    -- nothing but a dot: the parent is the empty path
    split at h
    case isFalse => cases h
    case isTrue hdot =>
      cases h
      rw [Bool.and_eq_true, decide_eq_true_iff, Bool.not_eq_true'] at hdot
      refine ⟨.current, ?_⟩
      rw [components_of_spoken_eq_nil (spoken_eq_nil hreverse), lead_eq_current_iff.2 hdot]
      rfl

/-- A path without a parent is the root alone, or has no component. -/
theorem components_of_parent?_eq_none {p : String} (h : parent? p = none) :
    components p = [] ∨ components p = [.root] := by
  unfold parent? at h
  dsimp only at h
  split at h
  case h_1 => cases h
  case h_2 hreverse =>
    split at h
    case isTrue => cases h
    case isFalse hdot =>
      rw [components_of_spoken_eq_nil (spoken_eq_nil hreverse)]
      rcases lead_eq_cases p with hlead | hlead | hlead
      · exact .inl hlead
      · exact .inr hlead
      · rw [Bool.and_eq_true, decide_eq_true_iff, Bool.not_eq_true'] at hdot
        exact absurd (lead_eq_current_iff.1 hlead) hdot

-- ================================================================= joins

/-- A join inside a directory that is there has one slash or the other in
between. -/
theorem toList_join {d f : String} (hd : d ≠ "")
    (hf : isAbsolute f = false) :
    ∃ a, (join d f).toList = a ++ '/' :: f.toList
      ∧ (d.toList = a ∨ d.toList = a ++ ['/']) := by
  have hempty : d.isEmpty = false := by
    rw [Bool.eq_false_iff, ne_eq, String.isEmpty_iff]
    exact hd
  unfold join
  rw [hf, hempty, Bool.or_self, if_neg Bool.false_ne_true]
  split
  case isTrue hlast =>
    obtain ⟨a, ha⟩ := List.getLast?_eq_some_iff.1 hlast
    refine ⟨a, ?_, .inr ha⟩
    rw [String.toList_append, ha, List.append_assoc, List.singleton_append]
  case isFalse =>
    refine ⟨d.toList, ?_, .inl rfl⟩
    rw [String.toList_append, String.toList_append, List.append_assoc]
    rfl

/-- A join has the components of both paths. -/
theorem components_join {d f : String} (hd : d ≠ "") (hf : lead f = []) :
    components (join d f) = components d ++ components f := by
  have hroot := (lead_eq_nil_iff.1 hf).1
  obtain ⟨a, hjoin, hdirectory⟩ := toList_join hd hroot
  have hlead : lead (join d f) = lead d := by
    refine lead_congr (names_join hroot).2 ?_
    rw [hjoin, leadsWithDot_append_slash]
    rcases hdirectory with ha | ha
    · rw [ha]
    · rw [ha, leadsWithDot_append_slash]
  have hspoken : spoken (join d f).toList
      = spoken d.toList ++ spoken f.toList := by
    rw [hjoin, spoken_append_slash]
    rcases hdirectory with ha | ha
    · rw [ha]
    · rw [ha, spoken_append_slash, show spoken [] = [] from rfl,
        List.append_nil]
  rw [components_eq, components_eq, components_eq, hlead, hf, hspoken,
    List.map_append, List.nil_append, List.append_assoc]

/-- Only the empty path has no component. -/
theorem components_eq_nil_iff {p : String} : components p = [] ↔ p = "" := by
  constructor
  case mpr => rintro rfl; rfl
  case mp =>
    intro h
    rw [components_eq, List.append_eq_nil_iff, List.map_eq_nil_iff,
      lead_eq_nil_iff] at h
    obtain ⟨⟨hroot, hdot⟩, hspoken⟩ := h
    rw [← String.toList_eq_nil_iff]
    cases hp : p.toList with
    | nil => rfl
    | cons c cs =>
        exfalso
        unfold isAbsolute at hroot
        unfold leadsWithDot at hdot
        unfold spoken at hspoken
        rw [hp] at hroot hdot hspoken
        have hc : c ≠ '/' := by
          rintro rfl
          cases hroot
        -- the first part is neither empty nor a dot
        obtain ⟨s, ss, -, hsegments⟩ := segments_cons hc cs
        rw [hsegments, List.head?_cons] at hdot
        rw [hsegments, List.filter_eq_nil_iff] at hspoken
        have hsilent := hspoken _ (List.mem_cons_self ..)
        simp [isSilent] at hsilent
        simp [hsilent] at hdot

-- ================================================================= names

theorem name_mem_components_iff {p f : String} :
    .name f ∈ components p ↔ f.toList ∈ spoken p.toList ∧ f ≠ ".." := by
  have hlead : .name f ∉ lead p := by
    rcases lead_eq_cases p with h | h | h <;> simp [h]
  have hup : f.toList = ['.', '.'] ↔ f = ".." := by
    rw [← String.toList_inj]
    rfl
  rw [components_eq, List.mem_append, or_iff_right hlead, List.mem_map,
    ne_eq, ← hup]
  unfold Component.ofSegment
  constructor
  · rintro ⟨s, hs, hname⟩
    split at hname
    case isTrue => cases hname
    case isFalse hs' =>
      cases hname
      rw [String.toList_ofList]
      exact ⟨hs, hs'⟩
  · rintro ⟨hs, hf⟩
    refine ⟨f.toList, hs, ?_⟩
    rw [if_neg hf, String.ofList_toList]

/-- What is a name in some path is one in every place. -/
theorem isName_of_mem {p f : String} (h : .name f ∈ components p) :
    IsName f := by
  obtain ⟨hspoken, hup⟩ := name_mem_components_iff.1 h
  obtain ⟨hmem, hspeaks⟩ := List.mem_filter.1 hspoken
  refine ⟨?_, no_slash_of_mem_segments hmem, ?_, hup⟩
  · rintro rfl
    cases hspeaks
  · rintro rfl
    cases hspeaks

theorem IsName.isSilent_eq_false {f : String} (h : IsName f) :
    isSilent f.toList = false := by
  unfold isSilent
  rw [Bool.or_eq_false_iff]
  constructor
  · rw [List.isEmpty_eq_false_iff, ne_eq, String.toList_eq_nil_iff]
    exact h.not_empty
  · rw [beq_eq_false_iff_ne]
    exact fun hdot => h.not_current (String.toList_inj.1 hdot)

/-- A name is a path of its own. -/
theorem IsName.components_eq {f : String} (h : IsName f) :
    lead f = [] ∧ components f = [.name f] := by
  have hsegments := segments_of_no_slash h.no_slash
  have hlead : lead f = [] := by
    refine lead_eq_nil_iff.2 ⟨?_, ?_⟩
    · unfold isAbsolute
      rw [beq_eq_false_iff_ne]
      intro hroot
      exact h.no_slash (List.mem_of_mem_head? hroot)
    · unfold leadsWithDot
      rw [hsegments, List.head?_cons, beq_eq_false_iff_ne, ne_eq,
        Option.some.injEq]
      exact fun hdot => h.not_current (String.toList_inj.1 hdot)
  have hup : f.toList ≠ ['.', '.'] := fun hup =>
    h.not_up (String.toList_inj.1 hup)
  refine ⟨hlead, ?_⟩
  rw [Path.components_eq, hlead, List.nil_append]
  unfold spoken
  rw [hsegments, List.filter_cons_of_pos (by simp [h.isSilent_eq_false])]
  simp [Component.ofSegment, hup]

-- ================================================================ splits

variable {p d f : String}

theorem fileName?_eq_some_iff :
    fileName? p = some f ↔ (components p).getLast? = some (.name f) := by
  unfold fileName?
  split
  case h_1 s h => rw [h, Option.some.injEq, Option.some.injEq,
    Component.name.injEq]
  case h_2 h => exact iff_of_false nofun (h f)

/-- A path is split when its last component is a name. -/
theorem isSome_split?_iff : (split? p).isSome = true
    ↔ ∃ f, (components p).getLast? = some (.name f) := by
  simp only [← fileName?_eq_some_iff, ← Option.isSome_iff_exists]
  unfold split?
  cases fileName? p <;> exact Iff.rfl

/-- The parts are that name and the parent, or a dot for an empty parent. -/
theorem split?_eq_some (h : split? p = some (d, f)) :
    (components p).getLast? = some (.name f)
      ∧ (parent? p = some "" ∧ d = "." ∨ parent? p = some d ∧ d ≠ "") := by
  unfold split? at h
  obtain ⟨file, hfile, h⟩ := Option.bind_eq_some_iff.1 h
  cases h
  have hlast := fileName?_eq_some_iff.1 hfile
  refine ⟨hlast, ?_⟩
  cases hparent : parent? p with
  | none =>
      -- neither the root nor nothing is a name
      rcases components_of_parent?_eq_none hparent with h | h <;>
        simp [h] at hlast
  | some q =>
      dsimp only
      by_cases hq : q = ""
      · exact .inl ⟨congrArg some hq, if_pos (String.isEmpty_iff.2 hq)⟩
      · rw [if_neg (mt String.isEmpty_iff.1 hq)]
        exact .inr ⟨rfl, hq⟩

/-- It is not split when it has no component, or the root alone, or a dot
alone, or goes up at its end. -/
theorem split?_eq_none_iff : split? p = none
    ↔ components p = [] ∨ components p = [.root] ∨ components p = [.current]
      ∨ (components p).getLast? = some .up := by
  rw [← Option.isNone_iff_eq_none, ← Option.not_isSome,
    Bool.not_eq_true', ← Bool.not_eq_true, isSome_split?_iff, not_exists]
  constructor
  case mpr =>
    rintro (h | h | h | h) f <;> simp [h]
  case mp =>
    intro hlast
    rw [components_eq] at hlast ⊢
    rcases List.eq_nil_or_concat (spoken p.toList) with hnone | ⟨ss, s, hs⟩
    · rw [hnone, List.map_nil, List.append_nil]
      rcases lead_eq_cases p with h | h | h
      · exact .inl h
      · exact .inr (.inl h)
      · exact .inr (.inr (.inl h))
    · -- a last part that is no name goes up
      refine .inr (.inr (.inr ?_))
      rw [hs, List.concat_eq_append, List.map_append, List.map_singleton,
        ← List.append_assoc, List.getLast?_concat] at hlast ⊢
      unfold Component.ofSegment at hlast ⊢
      split
      case isTrue => rfl
      case isFalse hup =>
        rw [if_neg hup] at hlast
        exact absurd rfl (hlast _)

/-- So no path that ends in `..` is split. -/
theorem split?_join_up (p : String) : split? (join p "..") = none := by
  refine split?_eq_none_iff.2 (.inr (.inr (.inr ?_)))
  by_cases hp : p = ""
  · rw [hp]
    rfl
  · rw [components_join hp rfl]
    exact List.getLast?_concat

/-- What a path is split into, joined: the path, which has a dot in front if
it is a lone name. -/
theorem components_join_split? (h : split? p = some (d, f)) :
    d ≠ "" ∧ components (join d f)
      = if (components p).length = 1 then .current :: components p
        else components p := by
  obtain ⟨hlast, hdirectory⟩ := split?_eq_some h
  obtain ⟨hlead, hfile⟩ :=
    (isName_of_mem (List.mem_of_getLast? hlast)).components_eq
  have hparent : ∀ {q}, parent? p = some q →
      components p = components q ++ [.name f] := by
    intro q hq
    obtain ⟨last, hp⟩ := components_parent? hq
    rw [hp, List.getLast?_concat, Option.some.injEq] at hlast
    rw [hp, hlast]
  rcases hdirectory with ⟨hq, rfl⟩ | ⟨hq, hd⟩
  · -- a lone name: the join has the dot that the directory is
    have hdot : "." ≠ "" := by decide
    refine ⟨hdot, ?_⟩
    rw [components_join hdot hlead, hfile, hparent hq]
    rfl
  · refine ⟨hd, ?_⟩
    have hlong : (components p).length ≠ 1 := by
      have hd' := mt components_eq_nil_iff.1 hd
      rw [← List.length_eq_zero_iff] at hd'
      rw [hparent hq, List.length_append, List.length_singleton]
      omega
    rw [if_neg hlong, components_join hd hlead, hfile, hparent hq]

end ApiContract.Path
