/-
Which names the generated code writes as they are. Two tests decide it: that
of an operation id, which searches the id for a pattern between anchors, and
that of a property key, which looks at the first character and then at all of
them. The search comes down to `Identifier.Matches` because both anchors hold
the match to the whole text (`pattern_foundIn_iff`), the other test because
what may stand first may stand anywhere.

So a line break at the end, a letter or digit outside ASCII and a digit in
front are refused by both tests (`Misspelt.not_matches`), and the key of a
parameter that has to be given stands bare exactly when an operation could be
called by its name.
-/
import ApiContract.Operation.RequestType
import ApiContract.Proofs.Identifier.Pattern
import ApiContract.Proofs.Text.Literal
import ApiContract.Proofs.Text.Search

namespace ApiContract

open Text

-- ================================================== statement vocabulary

namespace Identifier

/-- The class `[A-Za-z_$]`. -/
def firstClass : CharClass := [('A', 'Z'), ('a', 'z'), ('_', '_'), ('$', '$')]

/-- The class `[A-Za-z0-9_$]`. -/
def laterClass : CharClass :=
  [('A', 'Z'), ('a', 'z'), ('0', '9'), ('_', '_'), ('$', '$')]

/-- The pattern `^[A-Za-z_$][A-Za-z0-9_$]*$`. -/
def pattern : Pattern :=
  .anchored (.seq (.one firstClass) (.many (.one laterClass)))

/-- Texts that come close to identifiers and are none: nothing is written, or
a line break behind, a character outside ASCII, or a digit first. -/
inductive Misspelt : String → Prop where
  | empty : Misspelt ""
  | lineBreak (s : String) : Misspelt (s ++ "\n")
  | foreign {s : String} {c : Char} (here : c ∈ s.toList)
      (outside : 0x80 ≤ c.toNat) : Misspelt s
  | digitFirst {s : String} {c : Char} {cs : List Char}
      (here : s.toList = c :: cs) (digit : '0' ≤ c ∧ c ≤ '9') : Misspelt s

end Identifier

/-- The property has this text for its key, and no mark behind it. -/
def Parameter.HasKey (p : Parameter) (key : String) : Prop :=
  p.property = "readonly " ++ key ++ ": " ++ p.typeText

-- =========================================================== the pattern

namespace Identifier

variable {s : String} {c : Char}

theorem le_and_le_iff {d : Char} : c ≤ d ∧ d ≤ c ↔ d = c := by
  constructor
  · rintro ⟨hcd, hdc⟩
    exact Char.le_antisymm hdc hcd
  · rintro rfl
    exact ⟨Char.le_refl _, Char.le_refl _⟩

theorem firstClass_has_iff : firstClass.Has c ↔ First c := by
  unfold CharClass.Has firstClass First
  simp only [List.mem_cons, List.not_mem_nil, or_false, exists_eq_or_imp,
    exists_eq_left, le_and_le_iff]

theorem laterClass_has_iff : laterClass.Has c ↔ Later c := by
  unfold CharClass.Has laterClass Later First
  simp only [List.mem_cons, List.not_mem_nil, or_false, exists_eq_or_imp,
    exists_eq_left, le_and_le_iff]
  constructor
  · rintro (h | h | h | h | h) <;> simp [h]
  · rintro ((h | h | h | h) | h) <;> simp [h]

/-- A search finds the pattern in the texts that it matches as a whole. -/
theorem pattern_foundIn_iff : pattern.FoundIn s ↔ Matches s := by
  unfold pattern Matches
  rw [Pattern.foundIn_anchored_iff, Pattern.spans_one_seq_iff]
  simp only [Pattern.spans_many_one_iff, firstClass_has_iff,
    laterClass_has_iff]

-- ============================================================= the tests

theorem keyNeedsQuotes_eq_false_iff :
    keyNeedsQuotes s = false ↔ Matches s := by
  rw [keyNeedsQuotes_eq_not_isIdentifier, Bool.not_eq_false',
    isIdentifier_iff_matches]

-- ==================================================== what comes close

theorem Matches.later (h : Matches s) : ∀ c ∈ s.toList, Later c := by
  obtain ⟨c, cs, hs, hc, hcs⟩ := h
  rw [hs]
  exact List.forall_mem_cons.2 ⟨Or.inl hc, hcs⟩

theorem Later.toNat_lt (h : Later c) : c.toNat < 0x80 :=
  toNat_lt_of_isIdentifierPart (isIdentifierPart_iff_later.2 h)

theorem not_first_of_digit (h : '0' ≤ c ∧ c ≤ '9') : ¬ First c := by
  have hle : c.toNat ≤ '9'.toNat := h.2
  rintro (⟨hfirst, -⟩ | ⟨hfirst, -⟩ | rfl | rfl)
  · have hA : 'A'.toNat ≤ c.toNat := hfirst
    exact absurd (Nat.le_trans hA hle) (by decide)
  · have ha : 'a'.toNat ≤ c.toNat := hfirst
    exact absurd (Nat.le_trans ha hle) (by decide)
  · exact absurd h (by decide)
  · exact absurd h (by decide)

theorem Misspelt.not_matches (h : Misspelt s) : ¬ Matches s := by
  intro hmatches
  cases h with
  | empty =>
      obtain ⟨c, cs, hs, -, -⟩ := hmatches
      cases hs
  | lineBreak s =>
      have hlater : Later '\n' := hmatches.later '\n' (by simp)
      exact absurd (isIdentifierPart_iff_later.2 hlater) (by decide)
  | foreign here outside =>
      have hlt := (hmatches.later _ here).toNat_lt
      omega
  | digitFirst here digit =>
      obtain ⟨c, cs, hs, hfirst, -⟩ := hmatches
      rw [here] at hs
      cases hs
      exact not_first_of_digit digit hfirst

end Identifier

-- ============================================================== the keys

theorem length_le_length_flatMap_escapeChar (cs : List Char) :
    cs.length ≤ (cs.flatMap escapeChar).length := by
  induction cs with
  | nil => exact Nat.le_refl _
  | cons c cs ih =>
      have hc : 1 ≤ (escapeChar c).length := by
        rcases escapeChar_cases c with ⟨e, -, hc⟩ | hc | ⟨hc, -⟩ <;> simp [hc]
      rw [List.flatMap_cons, List.length_append, List.length_cons]
      omega

/-- Escaping shortens nothing, so a literal is longer than what it stands
for. -/
theorem literal_ne_self (s : String) : literal s ≠ s := by
  intro h
  have hlength := congrArg (fun t : String => t.toList.length) h
  have hle := length_le_length_flatMap_escapeChar s.toList
  simp only [literal, escape, String.toList_append, String.toList_ofList,
    List.length_append] at hlength
  have hquote : "\"".toList.length = 1 := rfl
  omega

namespace Parameter

variable {p : Parameter}

theorem hasKey_iff (h : p.isOptional = false) {key : String} :
    p.HasKey key
      ↔ key = if keyNeedsQuotes p.name then literal p.name else p.name := by
  have hproperty : p.property = "readonly "
      ++ (if keyNeedsQuotes p.name then literal p.name else p.name) ++ ": "
      ++ p.typeText := by
    unfold property
    rw [h, if_neg Bool.false_ne_true]
    cases keyNeedsQuotes p.name <;> rfl
  unfold HasKey
  rw [hproperty, String.append_left_inj, String.append_left_inj,
    String.append_right_inj]
  exact eq_comm

theorem hasKey_name_iff (h : p.isOptional = false) :
    p.HasKey p.name ↔ Identifier.Matches p.name := by
  rw [hasKey_iff h, ← Identifier.keyNeedsQuotes_eq_false_iff]
  cases keyNeedsQuotes p.name with
  | true => simp [(literal_ne_self p.name).symm]
  | false => simp

theorem hasKey_literal_iff (h : p.isOptional = false) :
    p.HasKey (literal p.name) ↔ ¬ Identifier.Matches p.name := by
  rw [hasKey_iff h, ← Identifier.keyNeedsQuotes_eq_false_iff]
  cases keyNeedsQuotes p.name with
  | true => simp
  | false => simp [literal_ne_self p.name]

end Parameter

-- ============================================================ the result

/-- The test of an id and that of a key agree on every text, and come to what
a search for the pattern comes to: they pass the identifiers, and refuse what
only comes close to one. A parameter that has to be given has its name for a
key exactly when it is an identifier, and otherwise a literal, from which the
name is read back whatever follows. -/
theorem identifierTests_agree :
    (∀ s, (keyNeedsQuotes s = false ↔ Operation.checkId s = .ok ())
      ∧ (Operation.checkId s = .ok () ↔ Identifier.Matches s)
      ∧ (Identifier.pattern.FoundIn s ↔ Identifier.Matches s)
      ∧ (¬ Identifier.Matches s → Operation.checkId s = .error (.badId s)))
    ∧ (∀ s, Identifier.Misspelt s →
      keyNeedsQuotes s = true ∧ Operation.checkId s = .error (.badId s))
    ∧ ∀ p : Parameter, p.isOptional = false →
      (p.HasKey p.name ↔ Identifier.Matches p.name)
      ∧ (p.HasKey (literal p.name) ↔ ¬ Identifier.Matches p.name)
      ∧ ∀ rest, readLiteral ((literal p.name).toList ++ rest)
        = some (p.name.toList, rest) := by
  refine ⟨fun s => ?_, fun s hs => ?_, fun p hp => ?_⟩
  · refine ⟨?_, Identifier.checkId_eq_ok_iff,
      Identifier.pattern_foundIn_iff, Identifier.checkId_of_not_matches⟩
    rw [Identifier.keyNeedsQuotes_eq_false_iff,
      Identifier.checkId_eq_ok_iff]
  · have hnot := hs.not_matches
    refine ⟨?_, Identifier.checkId_of_not_matches hnot⟩
    rw [← Bool.not_eq_false, Identifier.keyNeedsQuotes_eq_false_iff]
    exact hnot
  · exact ⟨p.hasKey_name_iff hp, p.hasKey_literal_iff hp,
      readLiteral_literal p.name⟩

/-- An identifier with a line break behind it, a parameter with a line break
in its name, and one whose name is an identifier of no letters. -/
theorem identifierTests_of_lookalikes :
    let broken : Parameter := ⟨"id\n", "string", .query, none⟩
    let bare : Parameter := ⟨"$_1", "string", .query, none⟩
    Identifier.Misspelt "getThing\n" ∧ broken.isOptional = false
      ∧ bare.isOptional = false
      ∧ Operation.checkId "getThing\n" = .error (.badId "getThing\n")
      ∧ broken.HasKey "\"id\\n\"" ∧ bare.HasKey "$_1" := by
  intro broken bare
  obtain ⟨-, hmisspelt, hkeys⟩ := identifierTests_agree
  have hgetThing : Identifier.Misspelt "getThing\n" := .lineBreak "getThing"
  have hbroken : broken.isOptional = false := by decide
  have hbare : bare.isOptional = false := by decide
  obtain ⟨-, hliteral, -⟩ := hkeys broken hbroken
  obtain ⟨hname, -⟩ := hkeys bare hbare
  refine ⟨hgetThing, hbroken, hbare, (hmisspelt _ hgetThing).2, ?_, ?_⟩
  · have hnot : ¬ Identifier.Matches broken.name :=
      (Identifier.Misspelt.lineBreak "id").not_matches
    have hwritten : literal broken.name = "\"id\\n\"" := by decide
    rw [← hwritten]
    exact hliteral.2 hnot
  · exact hname.2 (Identifier.isIdentifier_iff_matches.1 (by decide))

end ApiContract
