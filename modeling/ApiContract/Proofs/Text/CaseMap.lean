/-
Which texts have a given text for their lower case, if that one is made of
small ASCII letters without a `k`. Every run of the table of the mappings
stays outside ASCII but the one of the kelvin sign, which becomes a `k`
(`lowerRuns_stayOutside`), and what becomes of a capital I with a dot is an
`i` with a mark behind it; neither does a sigma become an ASCII letter,
wherever it stands. So from outside ASCII nothing leads to such a text, and
within ASCII one character leads to one (`lower_eq_iff`).

The induction is over the characters that are left, with those that were
passed left general, since a sigma looks back at them.
-/
import Mathlib.Data.List.Forall2
import ApiContract.Proofs.Text.Chars
import ApiContract.Text.CaseMap

namespace ApiContract.Text

-- ================================================== statement vocabulary

/-- The one is an ASCII capital, and the other is its small letter. -/
def IsCapitalOf (c d : Char) : Prop :=
  'A' ≤ c ∧ c ≤ 'Z' ∧ d.toNat = c.toNat + 32

instance : DecidableRel IsCapitalOf := fun c d =>
  inferInstanceAs (Decidable ('A' ≤ c ∧ c ≤ 'Z' ∧ d.toNat = c.toNat + 32))

/-- One character, or an ASCII letter in two cases. -/
def SameLetter (c d : Char) : Prop :=
  c = d ∨ IsCapitalOf c d ∨ IsCapitalOf d c

instance : DecidableRel SameLetter := fun c d =>
  inferInstanceAs (Decidable (c = d ∨ IsCapitalOf c d ∨ IsCapitalOf d c))

/-- The texts have one length, and the same letter in each place. -/
structure IsCaseVariant (s t : String) : Prop where
  length : s.length = t.length
  letters : ∀ pair ∈ s.toList.zip t.toList, SameLetter pair.1 pair.2

/-- An ASCII letter. -/
def IsAsciiLetter (c : Char) : Prop :=
  'A' ≤ c ∧ c ≤ 'Z' ∨ 'a' ≤ c ∧ c ≤ 'z'

instance : DecidablePred IsAsciiLetter := fun c =>
  inferInstanceAs (Decidable ('A' ≤ c ∧ c ≤ 'Z' ∨ 'a' ≤ c ∧ c ≤ 'z'))

/-- A small ASCII letter, but no `k`. -/
def IsPlainLetter (c : Char) : Prop := 'a' ≤ c ∧ c ≤ 'z' ∧ c ≠ 'k'

instance : DecidablePred IsPlainLetter := fun c =>
  inferInstanceAs (Decidable ('a' ≤ c ∧ c ≤ 'z' ∧ c ≠ 'k'))

-- ========================================================= the mappings

namespace CaseMap

/-- The run leads to characters outside ASCII. -/
def Run.StaysOutside (r : Run) : Prop :=
  0x80 ≤ r.first + r.offset
    ∧ (r.last + r.offset < 0xD800
      ∨ 0xDFFF < r.first + r.offset ∧ r.last + r.offset < 0x110000)

instance : DecidablePred Run.StaysOutside := fun r =>
  inferInstanceAs (Decidable (0x80 ≤ r.first + r.offset
    ∧ (r.last + r.offset < 0xD800
      ∨ 0xDFFF < r.first + r.offset ∧ r.last + r.offset < 0x110000)))

/-- The kelvin sign has a run of its own, and it is the one that leads into
ASCII. -/
theorem lowerRuns_stayOutside : ∀ r ∈ lowerRuns,
    r = ⟨0x212A, 0x212A, 1, -8383⟩ ∨ r.StaysOutside := by
  decide +kernel

theorem Run.StaysOutside.toNat_ofNat {r : Run} {n : Nat}
    (h : r.StaysOutside) (hcovers : r.covers n = true) :
    0x80 ≤ (Char.ofNat (n + r.offset).toNat).toNat := by
  unfold covers at hcovers
  unfold StaysOutside at h
  simp only [Bool.and_eq_true, decide_eq_true_eq] at hcovers
  obtain ⟨⟨hfirst, hlast⟩, -⟩ := hcovers
  have hvalid : (n + r.offset).toNat.isValidChar := by
    unfold Nat.isValidChar
    omega
  have htoNat : (Char.ofNat (n + r.offset).toNat).toNat
      = (n + r.offset).toNat := by
    rw [Char.ofNat, dif_pos hvalid]
    rfl
  omega

/-- A character without an expansion goes where a run that covers it leads,
or stays what it is. -/
theorem look_cases (runs : List Run) {expansions : List (Nat × List Nat)}
    {n : Nat} (h : expansions.lookup n = none) :
    look runs expansions n = [n]
      ∨ ∃ r ∈ runs, r.covers n = true
        ∧ look runs expansions n = [(n + r.offset).toNat] := by
  unfold look
  rw [h]
  cases hfind : runs.find? fun r : Run => r.covers n with
  | none => exact Or.inl rfl
  | some r =>
      exact Or.inr ⟨r, List.mem_of_find?_eq_some hfind,
        List.find?_some (p := fun r : Run => r.covers n) hfind, rfl⟩

end CaseMap

/-- What becomes of a character outside ASCII: two of them come back to an
ASCII letter, the capital I with a dot not without its dot. -/
theorem lowerChar_cases {c : Char} (hc : 0x80 ≤ c.toNat) :
    (c = '\u0130' ∧ lowerChar c = ['i', '\u0307'])
      ∨ (c = '\u212A' ∧ lowerChar c = ['k'])
      ∨ ∃ d, lowerChar c = [d] ∧ 0x80 ≤ d.toNat := by
  by_cases hdotted : c = '\u0130'
  · subst hdotted
    exact Or.inl ⟨rfl, by decide⟩
  right
  -- the capital I with a dot is the only character with an expansion
  have hlookup : CaseMap.lowerExpansions.lookup c.toNat = none := by
    have hne : (c.toNat == 0x130) = false := by
      rw [beq_eq_false_iff_ne]
      exact fun h => hdotted (Char.toNat_inj.1 h)
    unfold CaseMap.lowerExpansions
    rw [List.lookup_cons, hne]
    rfl
  have hlower : lowerChar c = (CaseMap.look CaseMap.lowerRuns
      CaseMap.lowerExpansions c.toNat).map Char.ofNat :=
    if_neg (Nat.not_lt.2 hc)
  have hlook := CaseMap.look_cases CaseMap.lowerRuns hlookup
  rcases hlook with hlook | ⟨r, hr, hcovers, hlook⟩ <;> rw [hlook] at hlower
  · exact Or.inr ⟨c, by rw [hlower, List.map_singleton, Char.ofNat_toNat], hc⟩
  · rcases CaseMap.lowerRuns_stayOutside r hr with rfl | hr
    · left
      have hkelvin : c = '\u212A' := by
        unfold CaseMap.Run.covers at hcovers
        simp only [Bool.and_eq_true, decide_eq_true_eq] at hcovers
        exact Char.toNat_inj.1 (show c.toNat = 0x212A by omega)
      subst hkelvin
      exact ⟨rfl, by decide⟩
    · exact Or.inr ⟨_, hlower, hr.toNat_ofNat hcovers⟩

/-- No character outside ASCII comes back to plain letters alone. -/
theorem toNat_lt_of_lowerAt {before after : List Char} {c : Char}
    (h : ∀ d ∈ lowerAt before c after, IsPlainLetter d) : c.toNat < 0x80 := by
  by_contra hc
  unfold lowerAt at h
  split at h
  -- a sigma becomes one of two, neither of them in ASCII
  · split at h
    · exact absurd (h 'ς' (List.mem_singleton_self _)) (by decide)
    · exact absurd (h 'σ' (List.mem_singleton_self _)) (by decide)
  · rcases lowerChar_cases (Nat.le_of_not_lt hc)
      with ⟨-, hlower⟩ | ⟨-, hlower⟩ | ⟨d, hlower, hd⟩
    · exact absurd (h '\u0307' (by rw [hlower]; decide)) (by decide)
    · exact absurd (h 'k' (by rw [hlower]; decide)) (by decide)
    · have hplain := h d (by rw [hlower]; exact List.mem_singleton_self d)
      have hz : d.toNat ≤ 'z'.toNat := hplain.2.1
      exact absurd (Nat.le_trans hd hz) (by decide)

theorem lowerAt_of_ascii (before after : List Char) {c : Char}
    (hc : c.toNat < 0x80) : lowerAt before c after = [c.toLower] := by
  have hsigma : c ≠ 'Σ' := by
    rintro rfl
    exact absurd hc (by decide)
  unfold lowerAt lowerChar
  rw [if_neg hsigma, if_pos hc]

-- ========================================================== the letters

/-- A capital becomes its small letter, and all else in ASCII stays. -/
theorem toLower_cases {c : Char} (hc : c.toNat < 0x80) :
    IsCapitalOf c c.toLower
      ∨ (¬ ('A' ≤ c ∧ c ≤ 'Z') ∧ c.toLower = c) := by
  unfold IsCapitalOf
  exact forall_ascii (p := fun c =>
    ('A' ≤ c ∧ c ≤ 'Z' ∧ c.toLower.toNat = c.toNat + 32)
      ∨ (¬ ('A' ≤ c ∧ c ≤ 'Z') ∧ c.toLower = c)) (by decide) hc

theorem sameLetter_toLower {c : Char} (hc : c.toNat < 0x80) :
    SameLetter c c.toLower := by
  rcases toLower_cases hc with hcapital | ⟨-, hstays⟩
  · exact Or.inr (Or.inl hcapital)
  · exact Or.inl hstays.symm

theorem IsCapitalOf.toNat_lt {c d : Char} (h : IsCapitalOf c d) :
    c.toNat < 0x80 :=
  Nat.lt_of_le_of_lt (show c.toNat ≤ 'Z'.toNat from h.2.1) (by decide)

theorem IsCapitalOf.toLower_eq {c d : Char} (h : IsCapitalOf c d) :
    c.toLower = d := by
  obtain ⟨hA, hZ, hd⟩ := h
  rcases toLower_cases (IsCapitalOf.toNat_lt ⟨hA, hZ, hd⟩)
    with ⟨-, -, hlower⟩ | ⟨hnot, -⟩
  · exact Char.toNat_inj.1 (hlower.trans hd.symm)
  · exact absurd ⟨hA, hZ⟩ hnot

theorem IsPlainLetter.toNat_lt {d : Char} (h : IsPlainLetter d) :
    d.toNat < 0x80 :=
  Nat.lt_of_le_of_lt (show d.toNat ≤ 'z'.toNat from h.2.1) (by decide)

/-- No small letter is a capital. -/
theorem IsPlainLetter.not_capital {d : Char} (h : IsPlainLetter d) :
    ¬ d ≤ 'Z' :=
  fun hZ => absurd (Char.le_trans h.1 hZ) (by decide)

/-- The letters that a plain letter can be written as are ASCII and have it
for their small letter. -/
theorem SameLetter.toLower_eq {c d : Char} (h : SameLetter c d)
    (hd : IsPlainLetter d) : c.toNat < 0x80 ∧ c.toLower = d := by
  rcases h with rfl | hcapital | hcapital
  · refine ⟨hd.toNat_lt, ?_⟩
    rcases toLower_cases hd.toNat_lt with ⟨-, hZ, -⟩ | ⟨-, hstays⟩
    · exact absurd hZ hd.not_capital
    · exact hstays
  · exact ⟨hcapital.toNat_lt, hcapital.toLower_eq⟩
  · exact absurd hcapital.2.1 hd.not_capital

theorem SameLetter.isAsciiLetter {c d : Char} (h : SameLetter c d)
    (hd : IsPlainLetter d) : IsAsciiLetter c := by
  rcases h with rfl | ⟨hA, hZ, -⟩ | hcapital
  · exact Or.inr ⟨hd.1, hd.2.1⟩
  · exact Or.inl ⟨hA, hZ⟩
  · exact absurd hcapital.2.1 hd.not_capital

-- ============================================================= the texts

theorem lowerFrom_eq_iff {cs ds : List Char} (before : List Char)
    (hds : ∀ d ∈ ds, IsPlainLetter d) :
    lowerFrom before cs = ds ↔ List.Forall₂ SameLetter cs ds := by
  induction cs generalizing before ds with
  | nil =>
      rw [List.forall₂_nil_left_iff]
      exact eq_comm
  | cons c cs ih =>
      unfold lowerFrom
      constructor
      · rintro rfl
        -- what becomes of `c` is in front, so `c` is ASCII and one letter
        obtain ⟨hc, hcs⟩ := List.forall_mem_append.1 hds
        have hascii := toNat_lt_of_lowerAt hc
        rw [lowerAt_of_ascii _ _ hascii, List.singleton_append]
        exact .cons (sameLetter_toLower hascii) ((ih _ hcs).1 rfl)
      · intro h
        cases h with
        | cons hletter hrest =>
            obtain ⟨hd, hds⟩ := List.forall_mem_cons.1 hds
            obtain ⟨hascii, hlower⟩ := hletter.toLower_eq hd
            rw [lowerAt_of_ascii _ _ hascii, hlower, (ih _ hds).2 hrest]
            rfl

theorem isCaseVariant_iff {s t : String} :
    IsCaseVariant s t ↔ List.Forall₂ SameLetter s.toList t.toList := by
  rw [List.forall₂_iff_zip, String.length_toList, String.length_toList]
  constructor
  · rintro ⟨hlength, hletters⟩
    exact ⟨hlength, fun hpair => hletters _ hpair⟩
  · rintro ⟨hlength, hletters⟩
    exact ⟨hlength, fun pair hpair => hletters hpair⟩

instance : DecidableRel IsCaseVariant := fun _ _ =>
  decidable_of_iff _ isCaseVariant_iff.symm

theorem IsCaseVariant.refl (s : String) : IsCaseVariant s s :=
  isCaseVariant_iff.2 (List.forall₂_same.2 fun _ _ => Or.inl rfl)

/-- The texts whose lower case is a text of plain letters are its variants in
ASCII case. -/
theorem lower_eq_iff {s t : String} (ht : ∀ d ∈ t.toList, IsPlainLetter d) :
    lower s = t ↔ IsCaseVariant s t := by
  rw [isCaseVariant_iff, ← lowerFrom_eq_iff [] ht, lower,
    ← String.toList_inj, String.toList_ofList]

/-- So a variant has the length of its own lower case. -/
theorem IsCaseVariant.length_lower {s t : String} (h : IsCaseVariant s t)
    (ht : ∀ d ∈ t.toList, IsPlainLetter d) : (lower s).length = s.length := by
  rw [(lower_eq_iff ht).2 h, h.length]

/-- A variant of a text of plain letters has ASCII letters only. -/
theorem IsCaseVariant.asciiLetters {s t : String} (h : IsCaseVariant s t)
    (ht : ∀ d ∈ t.toList, IsPlainLetter d) :
    ∀ c ∈ s.toList, IsAsciiLetter c := by
  have hletters := isCaseVariant_iff.1 h
  generalize s.toList = cs, t.toList = ds at hletters ht
  induction hletters with
  | nil => exact fun c hc => absurd hc List.not_mem_nil
  | cons hletter _ ih =>
      obtain ⟨hd, hds⟩ := List.forall_mem_cons.1 ht
      exact List.forall_mem_cons.2 ⟨hletter.isAsciiLetter hd, ih hds⟩

end ApiContract.Text
