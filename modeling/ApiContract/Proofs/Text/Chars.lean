/-
Texts all of whose characters have a property. Generated code is assembled by
few operations, and all of them append: a property that an appended text has
when both parts have it (`AppendClosed`) is one of a joined text when the
separator and every part have it, and one of a type application when base,
arguments and the marks between them do.

The second half is what an escaped text is made of: no control character is
left in it, so a literal never breaks a line.
-/
import Mathlib.Tactic.SplitIfs
import ApiContract.Text.Literal

namespace ApiContract.Text

/-- A list of characters is gone through item by item. There are finitely
many characters, so going through all of them would decide this, too; hence
the priority. -/
instance (priority := 2000) decidableForallChar (p : Char → Prop)
    [DecidablePred p] (cs : List Char) : Decidable (∀ c ∈ cs, p c) :=
  List.decidableBAll p cs

/-- Every character of the text has the property. -/
def AllChars (p : Char → Prop) (s : String) : Prop := ∀ c ∈ s.toList, p c

instance (p : Char → Prop) [DecidablePred p] (s : String) :
    Decidable (AllChars p s) :=
  decidableForallChar p s.toList

theorem toList_braced (s : String) :
    (braced s).toList = '{' :: (s.toList ++ ['}']) := by
  unfold braced
  rw [String.toList_append, String.toList_append]
  rfl

variable {p q : Char → Prop} {s t : String}

-- ============================================================== the laws

/-- The property is kept by appending. -/
structure AppendClosed (P : String → Prop) : Prop where
  empty : P ""
  append : ∀ {s t}, P s → P t → P (s ++ t)

theorem AppendClosed.intercalate {P : String → Prop} (h : AppendClosed P)
    {parts : List String} (hs : P s) (hparts : ∀ part ∈ parts, P part) :
    P (s.intercalate parts) := by
  induction parts with
  | nil =>
      rw [String.intercalate_nil]
      exact h.empty
  | cons part rest ih =>
      have hpart := hparts part (List.mem_cons_self ..)
      have hrest := ih fun x hx => hparts x (List.mem_cons_of_mem _ hx)
      cases rest with
      | nil =>
          rw [String.intercalate_singleton]
          exact hpart
      | cons next more =>
          rw [String.intercalate_cons_cons]
          exact h.append (h.append hpart hs) hrest

theorem AppendClosed.withGenerics {P : String → Prop} (h : AppendClosed P)
    (hopen : P "<") (hcomma : P ", ") (hclose : P ">") {base : String}
    {arguments : List String} (hbase : P base)
    (harguments : ∀ a ∈ arguments, P a) : P (withGenerics base arguments) := by
  unfold Text.withGenerics
  split
  · exact hbase
  · exact h.append (h.append (h.append hbase hopen)
      (h.intercalate hcomma harguments)) hclose

theorem AllChars.mono (h : AllChars p s) (hpq : ∀ c, p c → q c) :
    AllChars q s :=
  fun c hc => hpq c (h c hc)

/-- Characters of a kind are other than one that is not of the kind. -/
theorem AllChars.ne (h : AllChars p s) {d : Char} (hd : ¬ p d) :
    AllChars (· ≠ d) s :=
  h.mono fun _ hc heq => hd (heq ▸ hc)

theorem AllChars.append (hs : AllChars p s) (ht : AllChars p t) :
    AllChars p (s ++ t) := by
  intro c hc
  rw [String.toList_append] at hc
  rcases List.mem_append.1 hc with hc | hc
  · exact hs c hc
  · exact ht c hc

theorem appendClosed_allChars (p : Char → Prop) :
    AppendClosed (AllChars p) where
  empty := fun c hc => by cases hc
  append := AllChars.append

theorem AllChars.intercalate_map {α : Type} {as : List α} {f : α → String}
    (hs : AllChars p s) (has : ∀ a ∈ as, AllChars p (f a)) :
    AllChars p (s.intercalate (as.map f)) :=
  (appendClosed_allChars p).intercalate hs (List.forall_mem_map.2 has)

/-- The marks of a type application: angle brackets, commas and blanks. -/
theorem AllChars.withGenerics {base : String} {arguments : List String}
    (hmarks : AllChars p "<, >") (hbase : AllChars p base)
    (harguments : ∀ a ∈ arguments, AllChars p a) :
    AllChars p (withGenerics base arguments) := by
  have hopen : AllChars p "<" := fun c hc => hmarks c (by
    rw [List.mem_singleton.1 hc]
    decide)
  have hclose : AllChars p ">" := fun c hc => hmarks c (by
    rw [List.mem_singleton.1 hc]
    decide)
  have hcomma : AllChars p ", " := fun c hc =>
    hmarks c (List.mem_cons_of_mem _ (List.mem_append_left [_] hc))
  exact (appendClosed_allChars p).withGenerics hopen hcomma hclose hbase
    harguments

-- =================================================== letters and digits

/-- What holds of the first 128 characters, which can be gone through, holds
of every ASCII character. -/
theorem forall_ascii {p : Char → Prop} (h : ∀ n < 128, p (Char.ofNat n))
    {c : Char} (hc : c.toNat < 128) : p c := by
  have hn := h c.toNat hc
  rwa [Char.ofNat_toNat] at hn

/-- Letters and digits by their numbers. -/
theorem isAlphanum_iff (c : Char) :
    c.isAlphanum = true ↔ (48 ≤ c.toNat ∧ c.toNat ≤ 57)
      ∨ (65 ≤ c.toNat ∧ c.toNat ≤ 90) ∨ (97 ≤ c.toNat ∧ c.toNat ≤ 122) := by
  show (decide (65 ≤ c.val ∧ c.val ≤ 90)
    || (decide (97 ≤ c.val) && decide (c.val ≤ 122))
    || (decide (48 ≤ c.val) && decide (c.val ≤ 57))) = true ↔ _
  simp only [Bool.or_eq_true, Bool.and_eq_true, decide_eq_true_eq,
    UInt32.le_iff_toNat_le]
  show ((65 ≤ c.toNat ∧ c.toNat ≤ 90 ∨ 97 ≤ c.toNat ∧ c.toNat ≤ 122)
    ∨ 48 ≤ c.toNat ∧ c.toNat ≤ 57) ↔ _
  omega

/-- A hexadecimal digit is a letter or a digit. -/
theorem isAlphanum_hexDigit {n : Nat} (h : n < 16) :
    (hexDigit n).isAlphanum = true := by
  have hall : ∀ m < 16, (hexDigit m).isAlphanum = true := by decide
  exact hall n h

theorem isAlphanum_of_mem_hexFour {n : Nat} {d : Char} (h : d ∈ hexFour n) :
    d.isAlphanum = true := by
  simp only [hexFour, List.mem_cons, List.not_mem_nil, or_false] at h
  rcases h with rfl | rfl | rfl | rfl <;>
    exact isAlphanum_hexDigit (Nat.mod_lt _ (by decide))

/-- Letters and digits are no control characters. -/
theorem not_isControl_of_isAlphanum {c : Char} (h : c.isAlphanum = true) :
    isControl c = false := by
  rw [isAlphanum_iff] at h
  rw [Bool.eq_false_iff]
  intro hc
  simp only [isControl, Bool.or_eq_true, Bool.and_eq_true,
    decide_eq_true_eq] at hc
  omega

-- ======================================================== escaped texts

/-- The three ways in which a character stands in a literal: behind a
backslash, by its number, or as it is. -/
theorem escapeChar_cases (c : Char) :
    (∃ e ∈ ['\\', '"', 'n', 'r', 't'], escapeChar c = ['\\', e])
      ∨ escapeChar c = '\\' :: 'u' :: hexFour c.toNat
      ∨ (escapeChar c = [c] ∧ c ≠ '\\' ∧ c ≠ '"' ∧ isControl c = false) := by
  unfold escapeChar
  split_ifs with hbackslash hquote _ _ _ hcontrol
  · exact Or.inl ⟨'\\', by decide, rfl⟩
  · exact Or.inl ⟨'"', by decide, rfl⟩
  · exact Or.inl ⟨'n', by decide, rfl⟩
  · exact Or.inl ⟨'r', by decide, rfl⟩
  · exact Or.inl ⟨'t', by decide, rfl⟩
  · exact Or.inr (Or.inl rfl)
  · exact Or.inr (Or.inr
      ⟨rfl, hbackslash, hquote, Bool.eq_false_iff.2 hcontrol⟩)

/-- No control character is left of an escaped one. -/
theorem not_isControl_of_mem_escapeChar {c d : Char}
    (h : d ∈ escapeChar c) : isControl d = false := by
  rcases escapeChar_cases c with ⟨e, he, hc⟩ | hc | ⟨hc, -, -, hd⟩
  · have hall : ∀ e ∈ ['\\', '"', 'n', 'r', 't'],
        ∀ d ∈ ['\\', e], isControl d = false := by decide
    rw [hc] at h
    exact hall e he d h
  · rw [hc] at h
    rcases List.mem_cons.1 h with rfl | h
    · rfl
    rcases List.mem_cons.1 h with rfl | h
    · rfl
    exact not_isControl_of_isAlphanum (isAlphanum_of_mem_hexFour h)
  · rw [hc, List.mem_singleton] at h
    rw [h]
    exact hd

/-- A literal holds no control character, so it stands in one line. -/
theorem allChars_literal (s : String) :
    AllChars (isControl · = false) (literal s) := by
  have hquote : AllChars (isControl · = false) "\"" := by
    intro c hc
    rw [List.mem_singleton.1 hc]
    rfl
  refine (hquote.append ?_).append hquote
  intro d hd
  rw [escape, String.toList_ofList] at hd
  obtain ⟨c, -, hd⟩ := List.mem_flatMap.1 hd
  exact not_isControl_of_mem_escapeChar hd

/-- Nor does a union of literals. -/
theorem allChars_unionOfLiterals (names : List String) :
    AllChars (isControl · = false) (unionOfLiterals names) := by
  unfold unionOfLiterals
  split
  · decide
  · exact .intercalate_map (by decide) fun name _ => allChars_literal name

end ApiContract.Text
