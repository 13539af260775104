/-
The first occurrence of a mark in a text. It is told by what stands in front
of it (`FirstBehind`): there the mark stands, and wherever else it does, no
less stands in front. Behind a given beginning an occurrence is the first
exactly when the mark is not complete any earlier, that is when it does not
occur in what is in front together with all of the mark but its last
character (`firstBehind_iff`).

For a mark of two characters the rest is a law on appended texts: it occurs in
one of the parts, or across the seam (`pair_infix_append`).
-/
import Mathlib.Data.List.Infix

namespace ApiContract.Text

-- ================================================== statement vocabulary

/-- Behind the front the text goes on with `before` and the mark, and the mark
does not stand nearer to the front. -/
def FirstBehind (text front before mark : String) : Prop :=
  (∃ rest, text = front ++ before ++ mark ++ rest)
    ∧ ∀ other rest, text = front ++ other ++ mark ++ rest →
      before.toList.length ≤ other.toList.length

-- ===================================================== first occurrences

/-- A mark occurs with less in front of it exactly when it is complete before
its last character is reached. -/
theorem exists_shorter_iff {α : Type} {before most rest : List α} {c : α} :
    (∃ other tail, before ++ (most ++ [c]) ++ rest
        = other ++ (most ++ [c]) ++ tail ∧ other.length < before.length)
      ↔ most ++ [c] <:+: before ++ most := by
  constructor
  · rintro ⟨other, tail, hsame, hlt⟩
    have hwhole : other ++ (most ++ [c]) ++ tail
        = before ++ most ++ ([c] ++ rest) := by
      rw [← hsame]
      simp only [List.append_assoc]
    have hreach : other ++ (most ++ [c]) <+: before ++ most :=
      List.prefix_of_prefix_length_le ⟨tail, hwhole⟩
        (List.prefix_append _ ([c] ++ rest)) (by
          simp only [List.length_append, List.length_singleton]
          omega)
    exact (List.suffix_append _ _).isInfix.trans hreach.isInfix
  · rintro ⟨other, tail, hfound⟩
    refine ⟨other, tail ++ [c] ++ rest, ?_, ?_⟩
    · rw [← List.append_assoc before, ← hfound]
      simp only [List.append_assoc]
    · have hsum := congrArg List.length hfound
      simp only [List.length_append, List.length_singleton] at hsum
      omega

theorem firstBehind_iff {text front before mark rest : String}
    (hmark : mark ≠ "") (h : text = front ++ before ++ mark ++ rest) :
    FirstBehind text front before mark
      ↔ ¬ mark.toList <:+: before.toList ++ mark.toList.dropLast := by
  obtain ⟨most, c, hconcat⟩ : ∃ most c, mark.toList = most ++ [c] := by
    rcases mark.toList.eq_nil_or_concat with hnil | ⟨most, c, hconcat⟩
    · exact absurd (String.toList_eq_nil_iff.1 hnil) hmark
    · exact ⟨most, c, hconcat.trans List.concat_eq_append⟩
  have hlists (other tail : String) : text = front ++ other ++ mark ++ tail
      ↔ before.toList ++ (most ++ [c]) ++ rest.toList
        = other.toList ++ (most ++ [c]) ++ tail.toList := by
    rw [h, ← String.toList_inj]
    simp only [String.toList_append, List.append_assoc, hconcat,
      List.append_cancel_left_eq]
  rw [hconcat, List.dropLast_concat, ← exists_shorter_iff]
  constructor
  · rintro ⟨-, hfirst⟩ ⟨other, tail, hsame, hlt⟩
    have hle := hfirst (String.ofList other) (String.ofList tail)
      ((hlists _ _).2 (by simpa only [String.toList_ofList] using hsame))
    rw [String.toList_ofList] at hle
    omega
  · intro hnone
    refine ⟨⟨rest, h⟩, fun other tail hother => ?_⟩
    by_contra hlt
    exact hnone ⟨_, _, (hlists other tail).1 hother, by omega⟩

-- ========================================================= two characters

/-- A mark of two characters stands in one of two parts, or across them. -/
theorem pair_infix_append {α : Type} {x y : α} {s t : List α} :
    [x, y] <:+: s ++ t ↔ [x, y] <:+: s ∨ [x, y] <:+: t
      ∨ s.getLast? = some x ∧ t.head? = some y := by
  induction s with
  | nil => simp
  | cons c s ih =>
      rw [List.cons_append, List.infix_cons_iff, List.infix_cons_iff, ih,
        List.cons_prefix_cons, List.cons_prefix_cons]
      cases s with
      | nil =>
          cases t with
          | nil => simp
          | cons d t =>
              simp [List.cons_prefix_cons, eq_comm (a := x), eq_comm (a := y),
                or_comm]
      | cons d s => simp [List.cons_prefix_cons, or_assoc]

end ApiContract.Text
