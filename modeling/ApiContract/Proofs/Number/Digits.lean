/-
The decimal text of a number. It is the one text of digits that has the number
for its value and no zero in front, the text of zero itself apart
(`isDecimal_iff`): a digit behind the text of a number that is not zero makes
the text of ten times that number and the digit, so a text of digits is rebuilt
from its value from the front on (`toDigits_append_of_digits`).

The texts of three characters are those of the numbers from 100 to 999, and
the first character of such a text counts the hundreds.
-/
import ApiContract.Number.Shortest

namespace ApiContract.Number

-- ================================================== statement vocabulary

/-- The text is made of digits, has the number for its value, and begins with a
zero only when it is nothing else. -/
structure IsDecimal (n : Nat) (s : String) : Prop where
  nonempty : s ≠ ""
  digits : ∀ c ∈ s.toList, c.isDigit = true
  value : Nat.ofDigitChars 10 s.toList 0 = n
  leading : s.toList.head? = some '0' → s = "0"

-- ============================================================ rebuilding

theorem toList_digits (n : Nat) :
    (Number.digits n).toList = Nat.toDigits 10 n := by
  unfold Number.digits
  exact String.toList_ofList

/-- A digit is the whole text of its value. -/
theorem toDigits_value {c : Char} (h : c.isDigit = true) :
    c.toNat - '0'.toNat < 10
      ∧ Nat.toDigits 10 (c.toNat - '0'.toNat) = [c] := by
  obtain ⟨hlow, hhigh⟩ := Char.isDigit_iff_toNat.1 h
  have hnine : '9'.toNat = '0'.toNat + 9 := rfl
  have hlt : c.toNat - '0'.toNat < 10 := by omega
  refine ⟨hlt, ?_⟩
  rw [Nat.toDigits_of_lt_base hlt, List.cons.injEq, ← Char.toNat_inj,
    Nat.toNat_digitChar_of_lt_ten hlt]
  refine ⟨?_, rfl⟩
  have hzero : '0'.toNat = 48 := rfl
  omega

/-- Digits behind the text of a number that is not zero make the text of what
they come to behind it. -/
theorem toDigits_append_of_digits {cs : List Char}
    (h : ∀ c ∈ cs, c.isDigit = true) : ∀ {n : Nat}, 0 < n →
      Nat.toDigits 10 n ++ cs = Nat.toDigits 10 (Nat.ofDigitChars 10 cs n) := by
  induction cs with
  | nil =>
      intro n _
      rw [List.append_nil, Nat.ofDigitChars_nil]
  | cons c cs ih =>
      intro n hn
      obtain ⟨hc, hcs⟩ := List.forall_mem_cons.1 h
      obtain ⟨hlt, hdigit⟩ := toDigits_value hc
      rw [Nat.ofDigitChars_cons, ← ih hcs (by omega),
        ← Nat.toDigits_append_toDigits (by omega) hn hlt, hdigit,
        List.append_assoc, List.singleton_append]

/-- The text of a number that is not zero begins with no zero. -/
theorem head?_toDigits_ne_zero {n : Nat} (hn : 0 < n) :
    (Nat.toDigits 10 n).head? ≠ some '0' := by
  induction n using Nat.strongRecOn with
  | ind n ih =>
      by_cases hlt : n < 10
      · rw [Nat.toDigits_of_lt_base hlt, List.head?_cons, ne_eq,
          Option.some.injEq, Nat.digitChar_eq_zero]
        omega
      · have hfirst := ih (n / 10) (by omega) (by omega)
        obtain ⟨c, cs, hcs⟩ := List.exists_cons_of_ne_nil
          (Nat.toDigits_ne_nil (n := n / 10) (b := 10))
        rw [hcs] at hfirst
        rw [Nat.toDigits_of_base_le (by omega) (by omega), hcs]
        exact hfirst

theorem isDecimal_digits (n : Nat) : IsDecimal n (Number.digits n) where
  nonempty := by
    rw [ne_eq, ← String.toList_eq_nil_iff, toList_digits]
    exact Nat.toDigits_ne_nil
  digits c hc := by
    rw [toList_digits] at hc
    exact Nat.isDigit_of_mem_toDigits (by omega) (by omega) hc
  value := by rw [toList_digits, Nat.ofDigitChars_ten_toDigits]
  leading h := by
    rw [toList_digits] at h
    have hn : n = 0 :=
      Nat.eq_zero_of_not_pos fun hpos => head?_toDigits_ne_zero hpos h
    rw [hn]
    rfl

/-- A number has one decimal text. -/
theorem isDecimal_iff {n : Nat} {s : String} :
    IsDecimal n s ↔ s = Number.digits n := by
  refine ⟨fun h => ?_, fun h => h ▸ isDecimal_digits n⟩
  obtain ⟨c, cs, hcs⟩ :=
    List.exists_cons_of_ne_nil (mt String.toList_eq_nil_iff.1 h.nonempty)
  by_cases hzero : c = '0'
  · have hs := h.leading (by rw [hcs, hzero]; rfl)
    rw [← h.value, hs]
    rfl
  · have hdigits := h.digits
    have hvalue := h.value
    rw [hcs] at hdigits hvalue
    obtain ⟨hc, hrest⟩ := List.forall_mem_cons.1 hdigits
    obtain ⟨-, hdigit⟩ := toDigits_value hc
    have hpos : 0 < c.toNat - '0'.toNat := by
      refine Nat.pos_of_ne_zero fun hvalue => hzero ?_
      rw [hvalue, Nat.toDigits_zero, List.cons.injEq] at hdigit
      exact hdigit.1.symm
    rw [Nat.ofDigitChars_cons, Nat.mul_zero, Nat.zero_add] at hvalue
    rw [← String.toList_inj, toList_digits, hcs, ← hvalue,
      ← toDigits_append_of_digits hrest hpos, hdigit, List.singleton_append]

theorem IsDecimal.unique {m n : Nat} {s : String} (hm : IsDecimal m s)
    (hn : IsDecimal n s) : m = n :=
  hm.value.symm.trans hn.value

-- ================================================================= sizes

/-- The texts of three characters are those of the numbers from 100 to
999. -/
theorem IsDecimal.length_eq_three_iff {n : Nat} {s : String}
    (h : IsDecimal n s) : s.toList.length = 3 ↔ 100 ≤ n ∧ n ≤ 999 := by
  rw [isDecimal_iff.1 h, toList_digits]
  have htwo : (Nat.toDigits 10 n).length ≤ 2 ↔ n < 10 ^ 2 :=
    Nat.length_toDigits_le_iff (by omega) (by omega)
  have hthree : (Nat.toDigits 10 n).length ≤ 3 ↔ n < 10 ^ 3 :=
    Nat.length_toDigits_le_iff (by omega) (by omega)
  omega

/-- Of such a text the first character counts the hundreds. -/
theorem IsDecimal.head?_eq {n : Nat} {s : String} (h : IsDecimal n s)
    (hlow : 100 ≤ n) (hhigh : n ≤ 999) :
    s.toList.head? = some (Nat.digitChar (n / 100)) := by
  have hhundreds : n / 10 / 10 = n / 100 := by omega
  rw [isDecimal_iff.1 h, toList_digits,
    Nat.toDigits_of_base_le (by omega) (by omega),
    Nat.toDigits_of_base_le (by omega) (by omega), hhundreds,
    Nat.toDigits_of_lt_base (by omega)]
  rfl

/-- A text of three characters that begins with a two is that of a number from
200 to 299, if of any. -/
theorem IsDecimal.two_hundreds_iff {n : Nat} {s : String}
    (h : IsDecimal n s) :
    s.toList.length = 3 ∧ s.toList.head? = some '2' ↔ 200 ≤ n ∧ n ≤ 299 := by
  rw [h.length_eq_three_iff]
  constructor
  · rintro ⟨⟨hlow, hhigh⟩, hhead⟩
    rw [h.head?_eq hlow hhigh, Option.some.injEq, ← Char.toNat_inj,
      Nat.toNat_digitChar_of_lt_ten (by omega)] at hhead
    have htwo : '2'.toNat = 48 + 2 := rfl
    omega
  · intro hn
    have hhundreds : n / 100 = 2 := by omega
    refine ⟨by omega, ?_⟩
    rw [h.head?_eq (by omega) (by omega), hhundreds]
    rfl

end ApiContract.Number
