/-
Literals and unions of literals say themselves where they end. A reader that
knows nothing of what was written stops behind a literal at its closing quote,
and behind a union at the first place where no ` | ` goes on, so both can be
followed by any text (a union by any that does not begin with a blank), and
what they stand for is read back from them.

That a union can be told from every other one needs no induction of its own:
two unions of one text are read back from it as one list
(`unionOfLiterals_injective`).
-/
import ApiContract.Proofs.Text.Parse

namespace ApiContract.Text

-- ================================================== statement vocabulary

/-- A control character: the category Cc has the first 32 characters, and the
33 from U+007F on. -/
def InCategoryCc (c : Char) : Prop :=
  c.toNat ≤ 0x1F ∨ 0x7F ≤ c.toNat ∧ c.toNat ≤ 0x9F

-- =============================================================== escaping

theorem isControl_iff (c : Char) : isControl c = true ↔ InCategoryCc c := by
  unfold isControl InCategoryCc
  simp only [Bool.or_eq_true, Bool.and_eq_true, decide_eq_true_eq]
  omega

/-- Escaping goes character by character. -/
theorem escape_append (a b : String) :
    escape (a ++ b) = escape a ++ escape b := by
  unfold escape
  rw [String.toList_append, List.flatMap_append, String.ofList_append]

/-- No control character is left in an escaped text. -/
theorem allChars_escape (s : String) :
    AllChars (¬ InCategoryCc ·) (escape s) := by
  intro d hd
  unfold escape at hd
  rw [String.toList_ofList] at hd
  obtain ⟨c, -, hd⟩ := List.mem_flatMap.1 hd
  have hcontrol := not_isControl_of_mem_escapeChar hd
  rw [← isControl_iff, hcontrol]
  exact Bool.false_ne_true

-- ================================================================= unions

/-- A union is followed by anything that does not begin with a blank. -/
theorem union_unionOfLiterals (names : List String) {rest : List Char}
    (h : rest.head? ≠ some ' ') :
    Parse.union Parse.quoted ((unionOfLiterals names).toList ++ rest)
      = some (names, rest) := by
  apply Parse.recovers_unionOfLiterals names
  intro c hc
  rw [beq_eq_false_iff_ne]
  rintro rfl
  exact h hc

/-- Unions of different lists are different. -/
theorem unionOfLiterals_injective : Function.Injective unionOfLiterals := by
  intro names names' h
  have hread := (Parse.recovers_unionOfLiterals names).whole?
  rw [h, (Parse.recovers_unionOfLiterals names').whole?] at hread
  exact (Option.some.inj hread).symm

-- ============================================================= the result

/-- Literals and their unions delimit themselves, and what they stand for is
read back from them: a literal is read up to its closing quote and no further,
whatever follows, since no quote and no control character of the text is left
inside; a union is read up to its last literal, in order and with repetitions,
and no two lists of texts have one union. -/
theorem literals_delimited :
    (∀ (s : String) (rest : List Char),
      readLiteral ('"' :: (escape s).toList ++ '"' :: rest)
        = some (s.toList, rest))
      ∧ (∀ s, ∀ c ∈ (escape s).toList, ¬ InCategoryCc c)
      ∧ (∀ a b, escape (a ++ b) = escape a ++ escape b)
      ∧ unionOfLiterals [] = "never"
      ∧ (∀ (names : List String) (rest : List Char), rest.head? ≠ some ' ' →
        Parse.union Parse.quoted ((unionOfLiterals names).toList ++ rest)
          = some (names, rest))
      ∧ Function.Injective unionOfLiterals := by
  refine ⟨?_, allChars_escape, escape_append, rfl, ?_,
    unionOfLiterals_injective⟩
  · intro s rest
    unfold escape
    rw [String.toList_ofList]
    exact readEscaped_escape s.toList rest
  · intro names rest h
    exact union_unionOfLiterals names h

/-- Texts with quotes, separators, backslashes and control characters of
their own, one of them twice, in front of a text that begins with another
separator. -/
theorem delimited_lookalikes :
    "|  \"c\"".toList.head? ≠ some ' '
      ∧ Parse.union Parse.quoted
          ((unionOfLiterals ["a\" | \"b", "\\u0007\x07", "a\" | \"b", ""]).toList
            ++ "|  \"c\"".toList)
        = some (["a\" | \"b", "\\u0007\x07", "a\" | \"b", ""],
            "|  \"c\"".toList) := by
  have hrest : "|  \"c\"".toList.head? ≠ some ' ' := by decide
  obtain ⟨-, -, -, -, hunion, -⟩ := literals_delimited
  exact ⟨hrest, hunion _ _ hrest⟩

end ApiContract.Text
