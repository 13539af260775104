/-
Identifiers as a pattern. `Identifier.Matches` says in ranges of characters
what `[A-Za-z_$][A-Za-z0-9_$]*` says, anchored at both ends of the text: there
is a first character, it is of the first class, and all behind it are of the
second. The test of an id passes exactly the texts that match, and refuses the
others with an error that keeps them.
-/
import ApiContract.Proofs.Identifier
import ApiContract.Proofs.Operation.Rules

namespace ApiContract.Identifier

-- ================================================== statement vocabulary

/-- The class `[A-Za-z_$]`. -/
def First (c : Char) : Prop :=
  'A' ≤ c ∧ c ≤ 'Z' ∨ 'a' ≤ c ∧ c ≤ 'z' ∨ c = '_' ∨ c = '$'

/-- The class `[A-Za-z0-9_$]`. -/
def Later (c : Char) : Prop := First c ∨ '0' ≤ c ∧ c ≤ '9'

/-- The whole text matches `[A-Za-z_$][A-Za-z0-9_$]*`. -/
def Matches (s : String) : Prop :=
  ∃ c cs, s.toList = c :: cs ∧ First c ∧ ∀ d ∈ cs, Later d

-- =============================================================== classes

theorem isIdentifierStart_iff {c : Char} :
    isIdentifierStart c = true ↔ First c := by
  unfold isIdentifierStart First Char.isAlpha Char.isUpper Char.isLower
  simp only [Bool.or_eq_true, beq_iff_eq, Bool.and_eq_true, decide_eq_true_eq,
    or_assoc]
  rfl

theorem isIdentifierPart_iff_later {c : Char} :
    isIdentifierPart c = true ↔ Later c := by
  unfold Later
  rw [← isIdentifierStart_iff]
  unfold isIdentifierPart isIdentifierStart Char.isAlphanum Char.isDigit
  simp only [Bool.or_eq_true, beq_iff_eq, Bool.and_eq_true, decide_eq_true_eq]
  show ((c.isAlpha = true ∨ '0' ≤ c ∧ c ≤ '9') ∨ c = '_') ∨ c = '$' ↔ _
  grind

/-- The test for identifiers passes the texts that match. -/
theorem isIdentifier_iff_matches {s : String} :
    isIdentifier s = true ↔ Matches s := by
  rw [isIdentifier_iff]
  unfold Matches
  simp only [isIdentifierStart_iff, isIdentifierPart_iff_later]

theorem checkId_eq_ok_iff {s : String} :
    Operation.checkId s = .ok () ↔ Matches s := by
  rw [Operation.checkId_eq_ok_iff, isIdentifier_iff_matches]

theorem checkId_of_not_matches {s : String} (h : ¬ Matches s) :
    Operation.checkId s = .error (.badId s) :=
  if_neg (mt isIdentifier_iff_matches.1 h)

end ApiContract.Identifier
