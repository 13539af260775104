/-
The names in a path. A path is cut at its slashes, and what is left of the
cuts without the silent ones (no text, or a lone dot) are its names, `..`
among them. Two texts are the same way through a tree when they have the same
names and begin at the same place, so what `join` and `parent?` do to a text
is told here by what they do to its names:

- the names of a join are those of both paths (`names_join`);
- a parent has the names of its path but for the last (`parent?_eq_some`);
- a path and its parents have fewer and fewer of its first names
  (`names_of_mem_ancestors`).

All three keep the beginning of the path. The text of a parent is an initial
part of the path itself (`unsegment_isPrefix`), so it begins with a slash
just when the path does.
-/
import ApiContract.Files.Path

namespace ApiContract.Path

-- ================================================== statement vocabulary

/-- The parts of a text that are not silent. -/
def spoken (cs : List Char) : List (List Char) :=
  (segments cs).filter (!isSilent ·)

/-- The names in a path, `..` among them. -/
def names (p : String) : List String := (spoken p.toList).map String.ofList

/-- No component of the path goes up. -/
def IsDownward (p : String) : Prop := Component.up ∉ components p

instance (p : String) : Decidable (IsDownward p) :=
  inferInstanceAs (Decidable (_ ∉ _))

-- ============================================================== segments

theorem segments_slash (cs : List Char) :
    segments ('/' :: cs) = [] :: segments cs := by
  rw [segments, if_pos rfl]

theorem segments_ne_nil (cs : List Char) : segments cs ≠ [] := by
  cases cs with
  | nil => simp [segments]
  | cons d ds => simp only [segments]; split <;> (try split) <;> simp

/-- A character that is no slash joins the first part. -/
theorem segments_cons {c : Char} (hc : c ≠ '/') (cs : List Char) :
    ∃ s ss, segments cs = s :: ss ∧ segments (c :: cs) = (c :: s) :: ss := by
  obtain ⟨s, ss, hcs⟩ := List.exists_cons_of_ne_nil (segments_ne_nil cs)
  refine ⟨s, ss, hcs, ?_⟩
  rw [segments, if_neg hc, hcs]

/-- A slash ends a part, and what stands behind it is cut by itself. -/
theorem segments_append_slash (a b : List Char) :
    segments (a ++ '/' :: b) = segments a ++ segments b := by
  induction a with
  | nil => exact segments_slash b
  | cons c a ih =>
      by_cases hc : c = '/'
      · subst hc
        rw [List.cons_append, segments_slash, segments_slash, ih,
          List.cons_append]
      · obtain ⟨s, ss, ha, hca⟩ := segments_cons hc a
        rw [hca, List.cons_append, segments, if_neg hc, ih, ha]
        rfl

theorem segments_of_no_slash {s : List Char} (h : '/' ∉ s) :
    segments s = [s] := by
  induction s with
  | nil => rfl
  | cons c s ih =>
      rw [List.mem_cons, not_or] at h
      rw [segments, if_neg (Ne.symm h.1), ih h.2]

theorem no_slash_of_mem_segments {cs s : List Char} (h : s ∈ segments cs) :
    '/' ∉ s := by
  induction cs generalizing s with
  | nil =>
      rw [segments, List.mem_singleton] at h
      subst h
      exact List.not_mem_nil
  | cons c cs ih =>
      by_cases hc : c = '/'
      · subst hc
        rw [segments_slash, List.mem_cons] at h
        rcases h with rfl | h
        · exact List.not_mem_nil
        · exact ih h
      · obtain ⟨t, ts, hcs, hccs⟩ := segments_cons hc cs
        rw [hcs] at ih
        rw [hccs, List.mem_cons] at h
        rcases h with rfl | h
        · rw [List.mem_cons, not_or]
          exact ⟨Ne.symm hc, ih (List.mem_cons_self ..)⟩
        · exact ih (List.mem_cons_of_mem _ h)

theorem unsegment_cons {s : List Char} {ss : List (List Char)}
    (h : ss ≠ []) : unsegment (s :: ss) = s ++ '/' :: unsegment ss := by
  cases ss with
  | nil => exact absurd rfl h
  | cons t ts => rfl

/-- Parts without a slash are what their text is cut into. -/
theorem segments_unsegment {ss : List (List Char)} (hne : ss ≠ [])
    (h : ∀ s ∈ ss, '/' ∉ s) : segments (unsegment ss) = ss := by
  induction ss with
  | nil => exact absurd rfl hne
  | cons s ss ih =>
      obtain ⟨hs, hss⟩ := List.forall_mem_cons.1 h
      cases hcase : ss with
      | nil => exact segments_of_no_slash hs
      | cons t ts =>
          rw [← hcase]
          have hne' : ss ≠ [] := by rw [hcase]; exact List.cons_ne_nil t ts
          rw [unsegment_cons hne', segments_append_slash, ih hne' hss,
            segments_of_no_slash hs]
          rfl

/-- The text of the first parts is an initial part of the text. -/
theorem unsegment_isPrefix {l ss : List (List Char)} (h : l <+: ss) :
    unsegment l <+: unsegment ss := by
  induction l generalizing ss with
  | nil => exact List.nil_prefix
  | cons s l ih =>
      obtain ⟨t, rfl⟩ := h
      cases hl : l with
      | nil =>
          cases ht : t with
          | nil => exact List.prefix_rfl
          | cons u us => exact List.prefix_append s _
      | cons v vs =>
          rw [← hl]
          have hne : l ≠ [] := by rw [hl]; exact List.cons_ne_nil v vs
          have hne' : l ++ t ≠ [] := by simp [hne]
          rw [List.cons_append, unsegment_cons hne, unsegment_cons hne',
            List.prefix_append_right_inj, List.cons_prefix_cons]
          exact ⟨rfl, ih (List.prefix_append l t)⟩

-- ================================================================ spoken

theorem spoken_append_slash (a b : List Char) :
    spoken (a ++ '/' :: b) = spoken a ++ spoken b := by
  unfold spoken
  rw [segments_append_slash, List.filter_append]

theorem spoken_slash (b : List Char) : spoken ('/' :: b) = spoken b :=
  spoken_append_slash [] b

/-- A dot that a slash or nothing follows is silent. -/
theorem spoken_dot {b : List Char} (h : b = [] ∨ ∃ c, b = '/' :: c) :
    spoken ('.' :: b) = spoken b := by
  rcases h with rfl | ⟨c, rfl⟩
  · rfl
  · rw [spoken_slash]
    exact spoken_append_slash ['.'] c

theorem spoken_unsegment {ss : List (List Char)} (h : ∀ s ∈ ss, '/' ∉ s) :
    spoken (unsegment ss) = ss.filter (!isSilent ·) := by
  cases hss : ss with
  | nil => rfl
  | cons t ts =>
      rw [← hss]
      unfold spoken
      rw [segments_unsegment (by rw [hss]; exact List.cons_ne_nil t ts) h]

/-- Taking silent parts from the end leaves the others. -/
theorem filter_trimSilent (ss : List (List Char)) :
    (trimSilent ss).filter (!isSilent ·) = ss.filter (!isSilent ·) := by
  have hdrop : ∀ l : List (List Char),
      (l.dropWhile isSilent).filter (!isSilent ·) = l.filter (!isSilent ·) := by
    intro l
    induction l with
    | nil => rfl
    | cons s l ih =>
        cases hs : isSilent s with
        | false => rw [List.dropWhile_cons_of_neg (by simp [hs])]
        | true =>
            rw [List.dropWhile_cons_of_pos hs, ih,
              List.filter_cons_of_neg (by simp [hs])]
  unfold trimSilent
  rw [List.filter_reverse, hdrop, List.filter_reverse, List.reverse_reverse]

theorem trimSilent_isPrefix (ss : List (List Char)) : trimSilent ss <+: ss := by
  unfold trimSilent
  rw [← List.reverse_suffix, List.reverse_reverse]
  exact List.dropWhile_suffix _

/-- The last part that is left is not silent. -/
theorem isSilent_of_trimSilent {ss before : List (List Char)} {s : List Char}
    (h : (trimSilent ss).reverse = s :: before) : isSilent s = false := by
  unfold trimSilent at h
  rw [List.reverse_reverse] at h
  have hhead := List.head?_dropWhile_not isSilent ss.reverse
  rw [h] at hhead
  exact hhead

-- ================================================================= names

theorem mem_names_up {p : String} :
    ".." ∈ names p ↔ ['.', '.'] ∈ segments p.toList := by
  unfold names spoken
  rw [List.mem_map]
  constructor
  · rintro ⟨s, hs, htext⟩
    have hlist : s = ['.', '.'] := by
      rw [← String.toList_inj, String.toList_ofList] at htext
      exact htext
    exact hlist ▸ (List.mem_filter.1 hs).1
  · intro h
    refine ⟨['.', '.'], List.mem_filter.2 ⟨h, ?_⟩, rfl⟩
    rfl

/-- A path is downward when `..` is none of its names. -/
theorem isDownward_iff {p : String} : IsDownward p ↔ ".." ∉ names p := by
  unfold IsDownward components
  rw [mem_names_up]
  dsimp only
  refine not_congr ?_
  rw [List.mem_append, List.mem_map]
  constructor
  · rintro (hlead | ⟨s, hs, hup⟩)
    · split at hlead
      · cases List.mem_singleton.1 hlead
      · split at hlead
        · cases List.mem_singleton.1 hlead
        · cases hlead
    · unfold Component.ofSegment at hup
      split at hup
      next heq => exact heq ▸ (List.mem_filter.1 hs).1
      next => cases hup
  · intro h
    exact .inr ⟨['.', '.'], List.mem_filter.2 ⟨h, rfl⟩, rfl⟩

-- ================================================================= joins

/-- Where a path begins is decided by what it begins with. -/
theorem isAbsolute_append {p : String} (hp : p ≠ "") (s : String) :
    isAbsolute (p ++ s) = isAbsolute p := by
  have hlist : p.toList ≠ [] := fun h => hp (String.toList_eq_nil_iff.1 h)
  obtain ⟨c, cs, hcs⟩ := List.exists_cons_of_ne_nil hlist
  unfold isAbsolute
  rw [String.toList_append, hcs]
  rfl

/-- A join has the names of both paths, and begins where the first does. -/
theorem names_join {p q : String} (hq : isAbsolute q = false) :
    names (join p q) = names p ++ names q
      ∧ isAbsolute (join p q) = isAbsolute p := by
  unfold join
  rw [hq, Bool.false_or]
  split
  case isTrue hempty =>
    rw [String.isEmpty_iff] at hempty
    subst hempty
    exact ⟨rfl, hq⟩
  case isFalse hne =>
    have hfirst := isAbsolute_append (mt String.isEmpty_iff.2 hne)
    unfold names
    split
    case isTrue hlast =>
      -- the slash at the end of the first path is the one between
      refine ⟨?_, hfirst q⟩
      obtain ⟨a, ha⟩ := List.getLast?_eq_some_iff.1 hlast
      rw [String.toList_append, ha, List.append_assoc, List.singleton_append,
        spoken_append_slash, spoken_append_slash, List.map_append,
        List.map_append]
      show _ = (_ ++ (spoken []).map String.ofList) ++ _
      rw [show spoken [] = [] from rfl, List.map_nil, List.append_nil]
    case isFalse =>
      refine ⟨?_, by rw [String.append_assoc]; exact hfirst _⟩
      rw [String.toList_append, String.toList_append,
        show "/".toList = ['/'] from rfl, List.append_assoc,
        List.singleton_append, spoken_append_slash, List.map_append]

-- =============================================================== parents

/-- What stands before the first name: the slash of an absolute path, the dot
of one that leads with it, or nothing. -/
theorem lead_cases (cs : List Char) :
    (∃ rest, cs = '/' :: rest ∧ leadLength cs = 1)
      ∨ (∃ rest, cs = '.' :: rest ∧ (rest = [] ∨ ∃ b, rest = '/' :: b)
        ∧ leadLength cs = 1)
      ∨ leadLength cs = 0 ∧ cs.head? ≠ some '/' := by
  unfold leadLength
  by_cases hslash : cs.head? = some '/'
  · obtain ⟨rest, rfl⟩ := List.head?_eq_some_iff.1 hslash
    exact .inl ⟨rest, rfl, by simp⟩
  · cases hdot : leadsWithDot cs with
    | false => exact .inr (.inr ⟨by simp [hslash], hslash⟩)
    | true =>
        unfold leadsWithDot at hdot
        rw [beq_iff_eq] at hdot
        refine .inr (.inl ?_)
        cases cs with
        | nil => cases hdot
        | cons c rest =>
            have hc : c ≠ '/' := fun h => hslash (by rw [h]; rfl)
            obtain ⟨s, ss, hrest, hcs⟩ := segments_cons hc rest
            rw [hcs, List.head?_cons, Option.some.injEq,
              List.cons.injEq] at hdot
            obtain ⟨rfl, rfl⟩ := hdot
            refine ⟨rest, rfl, ?_, by simp⟩
            cases rest with
            | nil => exact .inl rfl
            | cons d b =>
                by_cases hd : d = '/'
                · exact .inr ⟨b, by rw [hd]⟩
                · obtain ⟨t, ts, -, ht⟩ := segments_cons hd b
                  rw [ht] at hrest
                  cases hrest

/-- What a text begins with also ends there, or goes on with a slash, if the
text does. -/
theorem nil_or_slash_of_isPrefix {x rest : List Char} (hx : x <+: rest)
    (h : rest = [] ∨ ∃ b, rest = '/' :: b) : x = [] ∨ ∃ b, x = '/' :: b := by
  rcases h with rfl | ⟨b, rfl⟩
  · exact .inl (List.prefix_nil.1 hx)
  · cases x with
    | nil => exact .inl rfl
    | cons c y =>
        obtain ⟨rfl, -⟩ := List.cons_prefix_cons.1 hx
        exact .inr ⟨y, rfl⟩

/-- The lead is silent, so a path with some other continuation of its own has
the names of that. -/
theorem spoken_lead {cs x : List Char} (hx : x <+: cs.drop (leadLength cs)) :
    spoken (cs.take (leadLength cs) ++ x) = spoken x := by
  rcases lead_cases cs with ⟨rest, rfl, hn⟩ | ⟨rest, rfl, hrest, hn⟩ | ⟨hn, -⟩
  · rw [hn]
    exact spoken_slash x
  · rw [hn] at hx ⊢
    exact spoken_dot (nil_or_slash_of_isPrefix hx hrest)
  · rw [hn, List.take_zero, List.nil_append]

/-- It also decides whether the path is absolute. -/
theorem head?_lead {cs x : List Char} (hx : x <+: cs.drop (leadLength cs)) :
    (cs.take (leadLength cs) ++ x).head? = some '/' ↔ cs.head? = some '/' := by
  rcases lead_cases cs with ⟨rest, rfl, hn⟩ | ⟨rest, rfl, hrest, hn⟩ | ⟨hn, hc⟩
  · rw [hn]
    exact Iff.rfl
  · rw [hn]
    exact Iff.rfl
  · rw [hn] at hx ⊢
    rw [List.take_zero, List.nil_append]
    refine iff_of_false (fun hslash => hc ?_) hc
    obtain ⟨y, rfl⟩ := List.head?_eq_some_iff.1 hslash
    obtain ⟨t, ht⟩ := hx
    rw [List.drop_zero] at ht
    rw [← ht]
    rfl

theorem isAbsolute_congr {p q : String}
    (h : q.toList.head? = some '/' ↔ p.toList.head? = some '/') :
    isAbsolute q = isAbsolute p := by
  unfold isAbsolute
  rw [Bool.eq_iff_iff, beq_iff_eq, beq_iff_eq]
  exact h

/-- What is behind the lead has all that the path has to say. -/
theorem spoken_drop_lead (cs : List Char) :
    spoken cs = spoken (cs.drop (leadLength cs)) := by
  have hwhole := spoken_lead (List.prefix_refl (cs.drop (leadLength cs)))
  rwa [List.take_append_drop] at hwhole

/-- Without a part that is left behind the lead, a path says nothing. -/
theorem spoken_eq_nil {cs : List Char}
    (h : (trimSilent (segments (cs.drop (leadLength cs)))).reverse = []) :
    spoken cs = [] := by
  rw [spoken_drop_lead]
  unfold spoken
  rw [← filter_trimSilent, List.reverse_eq_nil_iff.1 h]
  rfl

/-- What is kept without the silent parts and the last of the others are
first parts. -/
theorem trimSilent_before_isPrefix {ss before : List (List Char)}
    {last : List Char} (h : (trimSilent ss).reverse = last :: before) :
    trimSilent before.reverse <+: ss := by
  have hparts : trimSilent ss = before.reverse ++ [last] := by
    rw [← List.reverse_reverse (trimSilent _), h, List.reverse_cons]
  exact ((trimSilent_isPrefix _).trans
    (hparts ▸ List.prefix_append _ [last])).trans (trimSilent_isPrefix _)

/-- The text of a parent: it begins as its path does, and all that it does
not say is the last part. -/
theorem spoken_parent {cs last : List Char} {before : List (List Char)}
    (h : (trimSilent (segments (cs.drop (leadLength cs)))).reverse
      = last :: before) :
    ((cs.take (leadLength cs)
        ++ unsegment (trimSilent before.reverse)).head? = some '/'
      ↔ cs.head? = some '/')
      ∧ spoken cs = spoken (cs.take (leadLength cs)
        ++ unsegment (trimSilent before.reverse)) ++ [last] := by
  have hparts : trimSilent (segments (cs.drop (leadLength cs)))
      = before.reverse ++ [last] := by
    rw [← List.reverse_reverse (trimSilent _), h, List.reverse_cons]
  have hkept := trimSilent_before_isPrefix h
  have htext : unsegment (trimSilent before.reverse)
      <+: cs.drop (leadLength cs) := by
    have hprefix := unsegment_isPrefix hkept
    rwa [unsegment_segments] at hprefix
  refine ⟨head?_lead htext, ?_⟩
  have hlast : [last].filter (!isSilent ·) = [last] := by
    simp [isSilent_of_trimSilent h]
  rw [spoken_lead htext, spoken_unsegment fun s hs =>
    no_slash_of_mem_segments (hkept.subset hs), filter_trimSilent,
    spoken_drop_lead]
  unfold spoken
  rw [← filter_trimSilent, hparts, List.filter_append, hlast]

/-- A parent begins where its path does and lacks the last of its names. A
path without names has the empty path for a parent, if any. -/
theorem parent?_eq_some {p q : String} (h : parent? p = some q) :
    isAbsolute q = isAbsolute p
      ∧ (names p = [] ∧ q = "" ∨ ∃ last, names p = names q ++ [last]) := by
  unfold parent? at h
  dsimp only at h
  split at h
  case h_1 last before hreverse =>
    cases h
    obtain ⟨hhead, hspoken⟩ := spoken_parent hreverse
    refine ⟨isAbsolute_congr ?_, .inr ⟨String.ofList last, ?_⟩⟩
    · rw [String.toList_ofList]
      exact hhead
    · unfold names
      rw [String.toList_ofList, hspoken, List.map_append, List.map_singleton]
  case h_2 hreverse =>
    split at h
    case isFalse => cases h
    case isTrue hn =>
      cases h
      rw [Bool.and_eq_true, Bool.not_eq_true'] at hn
      refine ⟨hn.2.symm, .inl ⟨?_, rfl⟩⟩
      unfold names
      rw [spoken_eq_nil hreverse, List.map_nil]

/-- Each of a path and its parents begins where the path does and has some
of its first names. -/
theorem names_of_mem_ancestors {p q : String} (h : q ∈ ancestors p) :
    isAbsolute q = isAbsolute p ∧ names q <+: names p := by
  have hwithin : ∀ fuel p, q ∈ ancestorsWithin fuel p →
      isAbsolute q = isAbsolute p ∧ names q <+: names p := by
    intro fuel
    induction fuel with
    | zero => exact fun p h => (List.not_mem_nil h).elim
    | succ fuel ih =>
        intro p h
        rw [ancestorsWithin, List.mem_cons] at h
        rcases h with rfl | h
        · exact ⟨rfl, List.prefix_refl _⟩
        · cases hparent : parent? p with
          | none =>
              rw [hparent] at h
              exact (List.not_mem_nil h).elim
          | some d =>
              rw [hparent] at h
              obtain ⟨habs, hnames⟩ := parent?_eq_some hparent
              obtain ⟨hqabs, hqnames⟩ := ih d h
              refine ⟨hqabs.trans habs, hqnames.trans ?_⟩
              rcases hnames with ⟨-, rfl⟩ | ⟨last, hlast⟩
              · exact List.nil_prefix
              · exact hlast ▸ List.prefix_append _ _
  exact hwithin _ p h

/-- A path all of whose names are among those of a downward path is
downward. -/
theorem IsDownward.of_subset {p q : String} (hp : IsDownward p)
    (h : names q ⊆ names p) : IsDownward q :=
  isDownward_iff.2 fun hup => isDownward_iff.1 hp (h hup)

end ApiContract.Path
