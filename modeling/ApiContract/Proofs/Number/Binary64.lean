/-
Whole numbers as binary64 numbers keep what a comparison with zero asks for.
A positive whole number is at least one, so at the exponent that rounding
chooses for it, which is no higher than that of its first bit, it is at least
one unit (`scaled_le`), and what is nearest to it is not nothing.
-/
import ApiContract.Number.Binary64

namespace ApiContract.Number.Binary64

/-- In units no greater than its first bit a whole number is at least one. -/
theorem scaled_le {n : Nat} (hn : 0 < n) {e : Int} (he : e ≤ Nat.log2 n) :
    0 < (scaled n 1 e).2 ∧ (scaled n 1 e).2 ≤ (scaled n 1 e).1 := by
  unfold scaled
  split
  case isTrue hsign =>
    have hpow : Nat.pow 2 e.toNat ≤ Nat.pow 2 (Nat.log2 n) :=
      Nat.pow_le_pow_right (by decide) (by omega)
    rw [Nat.one_mul]
    exact ⟨Nat.pow_pos (by decide),
      Nat.le_trans hpow (Nat.log2_self_le (Nat.ne_of_gt hn))⟩
  case isFalse =>
    exact ⟨Nat.one_pos, Nat.mul_pos hn (Nat.pow_pos (by decide))⟩

theorem exponentOf_le (n : Nat) : exponentOf n 1 ≤ Nat.log2 n := by
  unfold exponentOf
  have hone : Nat.log2 1 = 0 := by decide
  rw [hone]
  dsimp only
  split <;> omega

/-- What is at least one unit is nearest to at least one. -/
theorem nearest_pos {n d : Nat} (hd : 0 < d) (h : d ≤ n) : 0 < nearest n d := by
  have hq : 0 < n / d := Nat.div_pos h hd
  unfold nearest
  dsimp only
  split
  · exact hq
  · split <;> omega

/-- A positive mantissa is positive when it is carried over. -/
theorem carry_pos {m : Nat} (hm : 0 < m) (e : Int) : 0 < (carry m e).1 := by
  unfold carry
  split
  · exact Nat.pow_pos (by decide)
  · exact hm

theorem mantissa_round_pos {negative : Bool} {n : Nat} {x : Binary64}
    (hn : 0 < n) (h : round negative n 1 = some x) :
    x.negative = negative ∧ 0 < x.mantissa := by
  obtain ⟨hd, hle⟩ := scaled_le hn (exponentOf_le n)
  -- for any pair, as the one of `round` must not be counted out
  have hbounded : ∀ c : Nat × Int, 0 < c.1 →
      (if 971 < c.2 then none else some (⟨negative, c.1, c.2⟩ : Binary64))
        = some x → x.negative = negative ∧ 0 < x.mantissa := by
    intro c hc hx
    obtain ⟨-, hx⟩ := Option.ite_none_left_eq_some.1 hx
    rw [← Option.some.inj hx]
    exact ⟨rfl, hc⟩
  unfold round at h
  rw [if_neg (Nat.ne_of_gt hn)] at h
  exact hbounded _ (carry_pos (nearest_pos hd hle) _) h

/-- A positive whole number is a positive number. -/
theorem ofInt_pos {n : Nat} (hn : 0 < n) :
    (ofInt n).negative = false ∧ 0 < (ofInt n).mantissa := by
  have hsign : decide ((n : Int) < 0) = false := by simp
  unfold ofInt
  rw [hsign, Int.natAbs_natCast]
  cases hround : round false n 1 with
  | none => exact ⟨rfl, by decide⟩
  | some x => exact mantissa_round_pos hn hround

theorem isLess_self (x : Binary64) : x.isLess x = false := by
  unfold isLess
  dsimp only
  rw [decide_eq_false_iff_not]
  exact Int.lt_irrefl _

theorem quotient_den_pos (x : Binary64) : 0 < x.quotient.2 := by
  unfold quotient
  split
  · exact Nat.one_pos
  · exact Nat.pow_pos (by decide)

/-- Zero is less than a number without a sign that is not zero. -/
theorem isLess_zero {x : Binary64} (hsign : x.negative = false)
    (hmantissa : 0 < x.mantissa) : (zero false).isLess x = true := by
  have hquotient : 0 < x.quotient.1 := by
    unfold quotient
    split
    · exact Nat.mul_pos hmantissa (Nat.pow_pos (by decide))
    · exact hmantissa
  have hnone : (zero false).quotient.1 = 0 := rfl
  have hpositive := Nat.mul_pos hquotient (zero false).quotient_den_pos
  unfold isLess
  dsimp only
  rw [decide_eq_true_iff, hsign, hnone, Nat.zero_mul]
  show (0 : Int) < _
  exact Int.natCast_pos.2 hpositive

/-- Zero is less than a count exactly when the count is not zero. -/
theorem isLess_zero_ofInt (n : Nat) :
    (ofInt 0).isLess (ofInt n) = decide (0 < n) := by
  by_cases hn : 0 < n
  · obtain ⟨hsign, hmantissa⟩ := ofInt_pos hn
    rw [decide_eq_true hn]
    exact isLess_zero hsign hmantissa
  · rw [decide_eq_false hn, Nat.eq_zero_of_not_pos hn]
    exact isLess_self _

end ApiContract.Number.Binary64
