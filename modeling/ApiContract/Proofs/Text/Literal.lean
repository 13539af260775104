/-
Reading a literal undoes writing it, whatever stands behind the literal: the
reader stops at the closing quote, since each quote inside is behind a
backslash. Character by character, what is written for one is read as that one
(`readEscaped_escapeChar`); the induction over the text then only has to put
the characters together.
-/
import ApiContract.Proofs.Text.Chars

namespace ApiContract.Text

-- ================================================== hexadecimal digits

theorem hexValue?_hexDigit {n : Nat} (h : n < 16) :
    hexValue? (hexDigit n) = some n := by
  have hall : ∀ m < 16, hexValue? (hexDigit m) = some m := by decide
  exact hall n h

/-- Four digits hold a number below 2^16. -/
theorem hexNumber?_hexFour {n : Nat} (h : n < 0x10000) :
    hexNumber? (hexFour n) = some n := by
  have hdigit (m : Nat) : hexValue? (hexDigit (m % 16)) = some (m % 16) :=
    hexValue?_hexDigit (Nat.mod_lt _ (by decide))
  have hsum : (((0 * 16 + n / 0x1000 % 16) * 16 + n / 0x100 % 16) * 16
      + n / 0x10 % 16) * 16 + n % 16 = n := by omega
  unfold hexNumber? hexFour
  simp only [List.foldlM_cons, List.foldlM_nil, hdigit, Option.map_some]
  exact congrArg some hsum

theorem toNat_lt_of_isControl {c : Char} (h : isControl c = true) :
    c.toNat < 0xA0 := by
  simp only [isControl, Bool.or_eq_true, Bool.and_eq_true,
    decide_eq_true_eq] at h
  omega

-- ============================================================= literals

/-- One character more, read in front of what is read behind it. -/
theorem readEscaped_bind (c : Char) (rest : List Char) :
    ((readEscaped rest).bind fun p => some (c :: p.1, p.2))
      = (readEscaped rest).map fun p => (c :: p.1, p.2) := by
  rw [Option.map_eq_bind]
  rfl

/-- What stands for a character is read as that character. -/
theorem readEscaped_escapeChar (c : Char) (rest : List Char) :
    readEscaped (escapeChar c ++ rest)
      = (readEscaped rest).map fun p => (c :: p.1, p.2) := by
  unfold escapeChar
  split_ifs with hbackslash hquote hn hr ht hcontrol
  · subst hbackslash
    exact readEscaped_bind _ rest
  · subst hquote
    exact readEscaped_bind _ rest
  · subst hn
    exact readEscaped_bind _ rest
  · subst hr
    exact readEscaped_bind _ rest
  · subst ht
    exact readEscaped_bind _ rest
  · have hlt : c.toNat < 0x10000 :=
      Nat.lt_trans (toNat_lt_of_isControl hcontrol) (by decide)
    show (hexNumber? (hexFour c.toNat)).bind (fun n =>
      (readEscaped rest).bind fun p => some (Char.ofNat n :: p.1, p.2)) = _
    rw [hexNumber?_hexFour hlt, Option.bind_some, Char.ofNat_toNat]
    exact readEscaped_bind c rest
  · rw [List.singleton_append, readEscaped.eq_def]
    split
    case h_1 heq => cases heq
    case h_2 heq => exact absurd (List.cons.inj heq).1 hquote
    case h_3 heq => exact absurd (List.cons.inj heq).1 hbackslash
    case h_4 heq => exact absurd (List.cons.inj heq).1 hbackslash
    case h_5 heq =>
      cases heq
      rw [if_neg (by simp [hcontrol, hbackslash])]
      exact readEscaped_bind c rest

theorem readEscaped_escape (cs rest : List Char) :
    readEscaped (cs.flatMap escapeChar ++ '"' :: rest) = some (cs, rest) := by
  induction cs with
  | nil => simp [readEscaped]
  | cons c cs ih =>
      rw [List.flatMap_cons, List.append_assoc, readEscaped_escapeChar, ih]
      rfl

/-- A literal is read back, and reading stops behind it. -/
theorem readLiteral_literal (s : String) (rest : List Char) :
    readLiteral ((literal s).toList ++ rest) = some (s.toList, rest) := by
  unfold literal escape
  simp only [String.toList_append, String.toList_ofList, List.append_assoc]
  show readEscaped (s.toList.flatMap escapeChar ++ '"' :: rest) = _
  exact readEscaped_escape s.toList rest

end ApiContract.Text
