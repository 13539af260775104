/-
The spellings of methods and locations. A text is put into lower case by the
case mapping of all Unicode before it is compared with the names; what comes
out is nevertheless that a text is read exactly if it is a name up to ASCII
case. The names are of small ASCII letters without a `k`, and no character
outside ASCII has a lower case of such letters alone.

What has to be known of a kind of value is that its names are such, and that
the lower case of a text is looked up among them (`readByName_of`); methods
and locations are two instances.
-/
import ApiContract.Proofs.Operation.Spelling
import ApiContract.Proofs.Text.CaseMap

namespace ApiContract

open Text

-- ================================================== statement vocabulary

/-- Values that stand in documents by their names. A text is read as a value
if it is the name of the value up to ASCII case, and is refused with an error
that keeps it if it is no such variant of any name: for one with a character
that is no ASCII letter, or with a lower case of another length, there is no
name. The names are in lower case and are read themselves. -/
structure ReadByName {α : Type} (read : Reader α) (name : α → String)
    (refusal : String → Mismatch) : Prop where
  reads : ∀ s a, read (.text s) = .ok a ↔ IsCaseVariant s (name a)
  refuses : ∀ s, (∀ a, ¬ IsCaseVariant s (name a)) →
    read (.text s) = .error (refusal s)
  refuses_other_characters : ∀ s, (∃ c ∈ s.toList, ¬ IsAsciiLetter c) →
    read (.text s) = .error (refusal s)
  refuses_other_length : ∀ s, (lower s).length ≠ s.length →
    read (.text s) = .error (refusal s)
  name_lower : ∀ a, ∀ c ∈ (name a).toList, 'a' ≤ c ∧ c ≤ 'z'
  reads_name : ∀ a, read (.text (name a)) = .ok a

-- ================================================================= names

/-- It is enough that the names are of plain letters, and that a text is
looked up among them in lower case. -/
theorem readByName_of {α : Type} {ofText? : String → Option α}
    {name : α → String}
    (hname : ∀ a, ∀ c ∈ (name a).toList, IsPlainLetter c)
    (hofText : ∀ {s a}, ofText? s = some a ↔ lower s = name a)
    (refusal : String → Mismatch) :
    ReadByName (.byName ofText? refusal) name refusal := by
  have hreads : ∀ s a, Reader.byName ofText? refusal (.text s) = .ok a
      ↔ IsCaseVariant s (name a) := by
    intro s a
    rw [← lower_eq_iff (hname a), ← hofText, Reader.byName_text]
    cases ofText? s <;> simp
  have hrefuses : ∀ s, (∀ a, ¬ IsCaseVariant s (name a)) →
      Reader.byName ofText? refusal (.text s) = .error (refusal s) := by
    intro s hs
    rw [Reader.byName_text]
    cases htext : ofText? s with
    | none => rfl
    | some a =>
        exact absurd ((lower_eq_iff (hname a)).1 (hofText.1 htext)) (hs a)
  exact {
    reads := hreads
    refuses := hrefuses
    refuses_other_characters := by
      rintro s ⟨c, hc, hletter⟩
      exact hrefuses s fun a h => hletter (h.asciiLetters (hname a) c hc)
    refuses_other_length := by
      intro s hlength
      exact hrefuses s fun a h => hlength (h.length_lower (hname a))
    name_lower := by
      intro a c hc
      obtain ⟨ha, hz, -⟩ := hname a c hc
      exact ⟨ha, hz⟩
    reads_name := fun a => (hreads _ a).2 (.refl _) }

theorem Method.readByName : ReadByName read name .badMethod :=
  readByName_of (fun m => by cases m <;> decide) ofText?_eq_some_iff _

theorem Location.readByName : ReadByName read name .badLocation :=
  readByName_of (fun l => by cases l <;> decide) ofText?_eq_some_iff _

-- ============================================================ the result

/-- Methods and locations are read from the ASCII case variants of their
names and from nothing else, and records are written with these names. -/
theorem names_in_any_asciiCase :
    ReadByName Method.read Method.name .badMethod
      ∧ ReadByName Location.read Location.name .badLocation
      ∧ (∀ op : Operation, ∃ fields, op.toValue = .object fields
        ∧ Value.field? "method" fields = some (.text op.method.name))
      ∧ ∀ p : Parameter, ∃ fields, p.toValue = .object fields
        ∧ Value.field? "in" fields = some (.text p.location.name) := by
  refine ⟨Method.readByName, Location.readByName, fun op => ?_, fun p => ?_⟩
  -- what is absent has no field, behind the one in question
  · refine ⟨_, rfl, ?_⟩
    cases op.consumes <;> cases op.produces <;> rfl
  · refine ⟨_, rfl, ?_⟩
    cases p.headerName <;> rfl

/-- A method in mixed case; a full-width one; a location with a blank behind
it, and one with an `I` that has its dot written out in lower case. -/
theorem names_of_lookalikes :
    IsCaseVariant "dElEtE" "delete"
      ∧ (∃ c ∈ "ＧＥＴ".toList, ¬ IsAsciiLetter c)
      ∧ (∃ c ∈ "body ".toList, ¬ IsAsciiLetter c)
      ∧ (lower "\u0130n").length ≠ "\u0130n".length
      ∧ Method.read (.text "dElEtE") = .ok .delete
      ∧ Method.read (.text "ＧＥＴ") = .error (.badMethod "ＧＥＴ")
      ∧ Location.read (.text "body ") = .error (.badLocation "body ")
      ∧ Location.read (.text "\u0130n") = .error (.badLocation "\u0130n") := by
  obtain ⟨hmethods, hlocations, -, -⟩ := names_in_any_asciiCase
  have hmixed : IsCaseVariant "dElEtE" "delete" := by decide
  have hwide : ∃ c ∈ "ＧＥＴ".toList, ¬ IsAsciiLetter c :=
    ⟨'Ｇ', by decide, by decide⟩
  have hblank : ∃ c ∈ "body ".toList, ¬ IsAsciiLetter c :=
    ⟨' ', by decide, by decide⟩
  have hdotted : (lower "\u0130n").length ≠ "\u0130n".length := by decide
  exact ⟨hmixed, hwide, hblank, hdotted, (hmethods.reads _ .delete).2 hmixed,
    hmethods.refuses_other_characters _ hwide,
    hlocations.refuses_other_characters _ hblank,
    hlocations.refuses_other_length _ hdotted⟩

end ApiContract
