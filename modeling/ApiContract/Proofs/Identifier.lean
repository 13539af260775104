/-
Identifiers and the names derived from them. An operation id that is an
identifier stays one when its first letter changes case, because all its
characters are ASCII and an ASCII letter has an ASCII letter as its other
case; and an identifier with letters behind it is one again. So every name
that the generated code declares is an identifier.
-/
import ApiContract.Identifier
import ApiContract.Proofs.Text.Chars

namespace ApiContract

open Text

variable {s t : String}

-- ========================================================== characters

theorem isIdentifierPart_of_start {c : Char}
    (h : isIdentifierStart c = true) : isIdentifierPart c = true := by
  simp only [isIdentifierStart, isIdentifierPart, Char.isAlphanum,
    Bool.or_eq_true] at h ⊢
  rcases h with (h | h) | h
  · exact Or.inl (Or.inl (Or.inl h))
  · exact Or.inl (Or.inr h)
  · exact Or.inr h

/-- A character of an identifier: a letter or a digit, or one of two marks. -/
theorem isIdentifierPart_iff (c : Char) :
    isIdentifierPart c = true ↔ c.isAlphanum = true ∨ c = '_' ∨ c = '$' := by
  simp only [isIdentifierPart, Bool.or_eq_true, beq_iff_eq, or_assoc]

/-- Characters of identifiers are ASCII. -/
theorem toNat_lt_of_isIdentifierPart {c : Char}
    (h : isIdentifierPart c = true) : c.toNat < 128 := by
  rw [isIdentifierPart_iff, isAlphanum_iff] at h
  rcases h with h | rfl | rfl
  · omega
  · decide
  · decide

/-- In either case the first character of an identifier may be one: one
character for one, and of the same kind. -/
theorem caseMap_of_isIdentifierStart {c : Char}
    (h : isIdentifierStart c = true) :
    (∃ d, upperChar c = [d] ∧ isIdentifierStart d = true)
      ∧ ∃ d, lowerChar c = [d] ∧ isIdentifierStart d = true := by
  have hlt := toNat_lt_of_isIdentifierPart (isIdentifierPart_of_start h)
  have hc := forall_ascii (p := fun c => isIdentifierStart c = true →
    isIdentifierStart c.toUpper = true ∧ isIdentifierStart c.toLower = true)
    (by decide) hlt
  exact ⟨⟨c.toUpper, if_pos hlt, (hc h).1⟩, ⟨c.toLower, if_pos hlt, (hc h).2⟩⟩

-- ========================================================= identifiers

/-- An identifier, taken apart at its first character. -/
theorem isIdentifier_iff : isIdentifier s = true ↔
    ∃ c cs, s.toList = c :: cs ∧ isIdentifierStart c = true
      ∧ ∀ d ∈ cs, isIdentifierPart d = true := by
  unfold isIdentifier
  cases h : s.toList with
  | nil => simp
  | cons c cs =>
      simp only [Bool.and_eq_true, List.all_eq_true, List.cons.injEq]
      constructor
      · rintro ⟨hc, hcs⟩
        exact ⟨c, cs, ⟨rfl, rfl⟩, hc, hcs⟩
      · rintro ⟨d, ds, ⟨rfl, rfl⟩, hc, hcs⟩
        exact ⟨hc, hcs⟩

theorem allChars_of_isIdentifier (h : isIdentifier s = true) :
    AllChars (isIdentifierPart · = true) s := by
  obtain ⟨c, cs, hs, hc, hcs⟩ := isIdentifier_iff.1 h
  intro d hd
  rw [hs] at hd
  rcases List.mem_cons.1 hd with rfl | hd
  · exact isIdentifierPart_of_start hc
  · exact hcs d hd

/-- A property key is written bare exactly when it is an identifier. -/
theorem keyNeedsQuotes_eq_not_isIdentifier (name : String) :
    keyNeedsQuotes name = !isIdentifier name := by
  unfold keyNeedsQuotes isIdentifier
  cases h : name.toList with
  | nil =>
      rw [String.toList_eq_nil_iff.1 h]
      rfl
  | cons c cs =>
      have hne : name.isEmpty = false := by
        rw [Bool.eq_false_iff, ne_eq, String.isEmpty_iff]
        rintro rfl
        cases h
      rw [hne, Bool.false_or, List.head?_cons, Option.map_some,
        Option.getD_some, List.all_cons]
      show (!isIdentifierStart c || !(isIdentifierPart c && cs.all _))
        = !(isIdentifierStart c && cs.all _)
      cases hc : isIdentifierStart c with
      | false => rfl
      | true =>
          rw [isIdentifierPart_of_start hc]
          rfl

-- ===================================================== derived names

theorem isIdentifier_append (hs : isIdentifier s = true)
    (ht : AllChars (isIdentifierPart · = true) t) :
    isIdentifier (s ++ t) = true := by
  obtain ⟨c, cs, hlist, hc, hcs⟩ := isIdentifier_iff.1 hs
  refine isIdentifier_iff.2 ⟨c, cs ++ t.toList, ?_, hc, ?_⟩
  · rw [String.toList_append, hlist, List.cons_append]
  · intro d hd
    rcases List.mem_append.1 hd with hd | hd
    · exact hcs d hd
    · exact ht d hd

theorem Text.mapFirst_eq {f : Char → List Char} {c d : Char} {cs : List Char}
    (hs : s.toList = c :: cs) (hf : f c = [d]) :
    mapFirst f s = String.ofList (d :: cs) := by
  unfold mapFirst
  rw [hs]
  show String.ofList (f c ++ cs) = _
  rw [hf, List.singleton_append]

theorem isIdentifier_mapFirst {f : Char → List Char}
    (hf : ∀ c, isIdentifierStart c = true →
      ∃ d, f c = [d] ∧ isIdentifierStart d = true)
    (h : isIdentifier s = true) : isIdentifier (mapFirst f s) = true := by
  obtain ⟨c, cs, hlist, hc, hcs⟩ := isIdentifier_iff.1 h
  obtain ⟨d, hmap, hd⟩ := hf c hc
  rw [mapFirst_eq hlist hmap]
  exact isIdentifier_iff.2 ⟨d, cs, String.toList_ofList, hd, hcs⟩

theorem isIdentifier_capitalize (h : isIdentifier s = true) :
    isIdentifier (capitalize s) = true :=
  isIdentifier_mapFirst (fun _ hc => (caseMap_of_isIdentifierStart hc).1) h

theorem isIdentifier_uncapitalize (h : isIdentifier s = true) :
    isIdentifier (uncapitalize s) = true :=
  isIdentifier_mapFirst (fun _ hc => (caseMap_of_isIdentifierStart hc).2) h

theorem isIdentifier_requestTypeName (h : isIdentifier s = true) :
    isIdentifier (requestTypeName s) = true :=
  isIdentifier_append (isIdentifier_capitalize h) (by decide)

/-- All names of a decoder block are identifiers. -/
theorem isIdentifier_decoderNames (h : isIdentifier s = true) :
    isIdentifier (DecoderNames.ofId s).responsesType = true
      ∧ isIdentifier (DecoderNames.ofId s).decoder = true
      ∧ isIdentifier (DecoderNames.ofId s).defaultDecoder = true
      ∧ isIdentifier (DecoderNames.ofId s).defaultResponses = true :=
  ⟨isIdentifier_append (isIdentifier_capitalize h) (by decide),
    isIdentifier_append (isIdentifier_uncapitalize h) (by decide),
    isIdentifier_append (isIdentifier_uncapitalize h) (by decide),
    isIdentifier_append (isIdentifier_uncapitalize h) (by decide)⟩

end ApiContract
