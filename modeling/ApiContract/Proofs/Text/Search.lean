/-
Patterns with anchors, and what it means that a text has a match. A search
may begin and end a match anywhere, so what a pattern matches is a stretch of
a text between what stands before and behind it, and the anchors look at
those two: `atStart` matches where nothing stands before, `atEnd` where
nothing at all stands behind, a final line break included.

That a search for a pattern between both anchors is a test of the whole text
is no part of the definition; it follows from where the anchors match
(`foundIn_anchored_iff`).
-/
namespace ApiContract.Text

-- ================================================== statement vocabulary

/-- A class of characters, as the ranges that it joins; the first and the
last character of a range are of it. -/
abbrev CharClass := List (Char × Char)

/-- The character is of the class. -/
def CharClass.Has (k : CharClass) (c : Char) : Prop :=
  ∃ range ∈ k, range.1 ≤ c ∧ c ≤ range.2

/-- Anchors, classes, one pattern behind another, and any number of matches
of one behind one another. -/
inductive Pattern where
  | atStart
  | atEnd
  | one (k : CharClass)
  | seq (p q : Pattern)
  | many (p : Pattern)
  deriving Repr

/-- Pieces one behind another, each of which matches where it stands. -/
inductive Repeated (Piece : List Char → List Char → List Char → Prop) :
    List Char → List Char → List Char → Prop where
  | none {before behind} : Repeated Piece before [] behind
  | more {before piece rest behind}
      (first : Piece before piece (rest ++ behind))
      (others : Repeated Piece (before ++ piece) rest behind) :
      Repeated Piece before (piece ++ rest) behind

namespace Pattern

/-- The pattern matches the stretch between what stands before and behind. -/
def Spans : Pattern → List Char → List Char → List Char → Prop
  | atStart, before, here, _ => before = [] ∧ here = []
  | atEnd, _, here, behind => here = [] ∧ behind = []
  | one k, _, here, _ => ∃ c, here = [c] ∧ k.Has c
  | seq p q, before, here, behind =>
    ∃ xs ys, here = xs ++ ys ∧ p.Spans before xs (ys ++ behind)
      ∧ q.Spans (before ++ xs) ys behind
  | many p, before, here, behind => Repeated p.Spans before here behind

/-- Some stretch of the text matches. -/
def FoundIn (p : Pattern) (s : String) : Prop :=
  ∃ before here behind, s.toList = before ++ here ++ behind
    ∧ p.Spans before here behind

/-- The pattern between both anchors. -/
def anchored (p : Pattern) : Pattern := seq atStart (seq p atEnd)

-- =========================================================== the matches

variable {p q : Pattern} {k : CharClass} {before here behind : List Char}

/-- One character of a class, and what `q` matches. -/
theorem spans_one_seq_iff : (seq (one k) q).Spans before here behind
    ↔ ∃ c cs, here = c :: cs ∧ k.Has c
      ∧ q.Spans (before ++ [c]) cs behind := by
  constructor
  · rintro ⟨_, cs, rfl, ⟨c, rfl, hc⟩, hcs⟩
    exact ⟨c, cs, rfl, hc, hcs⟩
  · rintro ⟨c, cs, rfl, hc, hcs⟩
    exact ⟨[c], cs, rfl, ⟨c, rfl, hc⟩, hcs⟩

/-- Where one character at a time is matched, the stretch is gone through
character by character; what stands around it does not count. -/
theorem spans_many_one_iff :
    (many (one k)).Spans before here behind ↔ ∀ c ∈ here, k.Has c := by
  constructor
  · intro h
    -- The pieces are taken off the stretch from its front.
    change Repeated (one k).Spans before here behind at h
    induction h with
    | none => exact fun c hc => absurd hc List.not_mem_nil
    | more first others ih =>
        obtain ⟨c, rfl, hc⟩ := first
        exact List.forall_mem_cons.2 ⟨hc, ih⟩
  · intro h
    induction here generalizing before with
    | nil => exact .none
    | cons c cs ih =>
        obtain ⟨hc, hcs⟩ := List.forall_mem_cons.1 h
        change Repeated (one k).Spans before ([c] ++ cs) behind
        exact .more ⟨c, rfl, hc⟩ (ih hcs)

/-- A pattern between both anchors has a match in a text exactly when it
matches all of it. -/
theorem foundIn_anchored_iff {s : String} :
    (anchored p).FoundIn s ↔ p.Spans [] s.toList [] := by
  constructor
  · rintro ⟨before, _, behind, hs, _, _, rfl, ⟨rfl, rfl⟩, here, _, rfl, hp,
      rfl, rfl⟩
    rw [List.nil_append, List.nil_append, List.append_nil, List.append_nil]
      at hs
    rw [hs]
    exact hp
  · intro hp
    refine ⟨[], s.toList, [], (List.append_nil _).symm, [], s.toList, rfl,
      ⟨rfl, rfl⟩, s.toList, [], (List.append_nil _).symm, hp, rfl, rfl⟩

end Pattern

end ApiContract.Text
