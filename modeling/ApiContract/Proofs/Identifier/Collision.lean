/-
Which operation ids get in each other's way. Five names are derived from an
id, all of them the id with its first character in one case and a fixed text
behind it. Two ids share a name in two ways only: they differ in nothing but
that case, or one of them is the other one with `Responses` or `Default`
behind it.

# Families

The last character of a name tells which fixed text it ends in, up to what
may stand before that text: a name in `T` is a type, one in `r` makes a
decoder, one in `s` is a map of defaults (`EndsLike`). So names are compared
within three families. Two families are a pair `f id ++ tail` and
`f id ++ (extra ++ tail)` each, and one lemma says when such pairs have a
name in common (`pairs_meet_iff`): what stands behind both is cut off, and
`extra` moves into the id, which the first character does not notice.
-/
import Mathlib.Data.List.Nodup
import ApiContract.Proofs.Identifier
import ApiContract.Proofs.Operation.Rules

namespace ApiContract

open Text

-- ================================================== statement vocabulary

/-- All names that the code of an operation declares. -/
def derivedNames (operationId : String) : List String :=
  let names := DecoderNames.ofId operationId
  [requestTypeName operationId, names.responsesType, names.decoder,
    names.defaultDecoder, names.defaultResponses]

/-- The texts are equal, up to the case of an ASCII letter in front. -/
def SameButFirstCase (s t : String) : Prop :=
  s.toList.head?.map Char.toLower = t.toList.head?.map Char.toLower
    ∧ s.toList.tail = t.toList.tail

instance (s t : String) : Decidable (SameButFirstCase s t) :=
  inferInstanceAs (Decidable (_ ∧ _))

-- ================================================================ stems

variable {f : String → String} {s t : String}

theorem sameButFirstCase_comm :
    SameButFirstCase s t ↔ SameButFirstCase t s :=
  and_congr eq_comm eq_comm

theorem sameButFirstCase_iff {c d : Char} {cs ds : List Char}
    (hs : s.toList = c :: cs) (ht : t.toList = d :: ds) :
    SameButFirstCase s t ↔ c.toLower = d.toLower ∧ cs = ds := by
  unfold SameButFirstCase
  rw [hs, ht]
  exact and_congr_left' Option.some_inj

/-- The function puts the first character of an identifier into one case and
leaves what stands behind. -/
structure IsStem (f : String → String) : Prop where
  eq_iff : ∀ {s t}, isIdentifier s = true → isIdentifier t = true →
    (f s = f t ↔ SameButFirstCase s t)
  append : ∀ {s}, isIdentifier s = true → ∀ t, f (s ++ t) = f s ++ t

/-- For ASCII letters it does not matter in which case they are compared. -/
theorem toUpper_eq_iff {c d : Char} (hc : c.toNat < 128) (hd : d.toNat < 128) :
    c.toUpper = d.toUpper ↔ c.toLower = d.toLower := by
  have hboth : ∀ e : Char, e.toNat < 128 →
      e.toUpper.toLower = e.toLower ∧ e.toLower.toUpper = e.toUpper :=
    fun _ he => forall_ascii (p := fun e =>
      e.toUpper.toLower = e.toLower ∧ e.toLower.toUpper = e.toUpper)
      (by decide) he
  constructor
  · intro h
    rw [← (hboth c hc).1, h, (hboth d hd).1]
  · intro h
    rw [← (hboth c hc).2, h, (hboth d hd).2]

theorem isStem_of_first {inCase : Char → Char}
    (hcase : ∀ {c d : Char}, c.toNat < 128 → d.toNat < 128 →
      (inCase c = inCase d ↔ c.toLower = d.toLower))
    (hf : ∀ {s : String} {c : Char} {cs : List Char}, s.toList = c :: cs →
      c.toNat < 128 → f s = String.ofList (inCase c :: cs)) : IsStem f where
  eq_iff := by
    intro s t hs ht
    obtain ⟨c, cs, hslist, hc, -⟩ := isIdentifier_iff.1 hs
    obtain ⟨d, ds, htlist, hd, -⟩ := isIdentifier_iff.1 ht
    have hc := toNat_lt_of_isIdentifierPart (isIdentifierPart_of_start hc)
    have hd := toNat_lt_of_isIdentifierPart (isIdentifierPart_of_start hd)
    rw [hf hslist hc, hf htlist hd, sameButFirstCase_iff hslist htlist,
      String.ofList_inj, List.cons.injEq, hcase hc hd]
  append := by
    intro s hs t
    obtain ⟨c, cs, hlist, hc, -⟩ := isIdentifier_iff.1 hs
    have hc := toNat_lt_of_isIdentifierPart (isIdentifierPart_of_start hc)
    have happend : (s ++ t).toList = c :: (cs ++ t.toList) := by
      rw [String.toList_append, hlist, List.cons_append]
    rw [hf happend hc, hf hlist hc, ← String.toList_inj,
      String.toList_append, String.toList_ofList, String.toList_ofList,
      List.cons_append]

theorem isStem_capitalize : IsStem capitalize :=
  isStem_of_first toUpper_eq_iff fun hlist hc => mapFirst_eq hlist (if_pos hc)

theorem isStem_uncapitalize : IsStem uncapitalize :=
  isStem_of_first (fun _ _ => Iff.rfl) fun hlist hc =>
    mapFirst_eq hlist (if_pos hc)

-- ============================================================= families

/-- The last character of the name is that of the given text. -/
def EndsLike (tail name : String) : Prop :=
  name.toList.getLast? = tail.toList.getLast?

theorem endsLike_append {tail : String} {c : Char}
    (htail : tail.toList.getLast? = some c) (s : String) :
    EndsLike tail (s ++ tail) := by
  unfold EndsLike
  rw [String.toList_append, List.getLast?_append, htail, Option.some_or]

/-- The two names with one stem and one ending, the second one with something
before the ending. -/
def pairOfNames (f : String → String) (extra tail x : String) : List String :=
  [f x ++ tail, f x ++ (extra ++ tail)]

theorem endsLike_of_mem_pair {f : String → String} {extra tail x name : String}
    {c : Char} (htail : tail.toList.getLast? = some c)
    (h : name ∈ pairOfNames f extra tail x) : EndsLike tail name := by
  simp only [pairOfNames, List.mem_cons, List.not_mem_nil, or_false] at h
  rcases h with rfl | rfl
  · exact endsLike_append htail _
  · rw [← String.append_assoc]
    exact endsLike_append htail _

/-- Two pairs with one ending have a name in common exactly when the ids
differ in nothing but the first case, or do so once one of them has got what
stands before the ending. -/
theorem pairs_meet_iff {x y extra : String} (hf : IsStem f)
    (hx : isIdentifier x = true) (hy : isIdentifier y = true)
    (hextra : AllChars (isIdentifierPart · = true) extra) (tail : String) :
    (∃ name ∈ pairOfNames f extra tail x, name ∈ pairOfNames f extra tail y)
      ↔ SameButFirstCase x y ∨ SameButFirstCase y (x ++ extra)
        ∨ SameButFirstCase x (y ++ extra) := by
  have hxe := isIdentifier_append hx hextra
  have hye := isIdentifier_append hy hextra
  have hpair : ∀ {z}, isIdentifier z = true →
      pairOfNames f extra tail z = [f z ++ tail, f (z ++ extra) ++ tail] := by
    intro z hz
    unfold pairOfNames
    rw [hf.append hz, String.append_assoc]
  have hboth : SameButFirstCase (x ++ extra) (y ++ extra)
      ↔ SameButFirstCase x y := by
    rw [← hf.eq_iff hxe hye, hf.append hx, hf.append hy,
      String.append_left_inj, hf.eq_iff hx hy]
  simp only [hpair hx, hpair hy, List.mem_cons, List.not_mem_nil, or_false,
    exists_eq_or_imp, exists_eq_left, String.append_left_inj]
  rw [hf.eq_iff hx hy, hf.eq_iff hx hye, hf.eq_iff hxe hy, hf.eq_iff hxe hye,
    hboth, sameButFirstCase_comm (s := x ++ extra)]
  grind

/-- A pair holds two names when something stands before the second ending. -/
theorem pair_nodup {f : String → String} {extra tail : String}
    (h : tail ≠ extra ++ tail) (x : String) :
    (pairOfNames f extra tail x).Nodup := by
  refine List.nodup_cons.2 ⟨fun hmem => h ?_, List.nodup_singleton _⟩
  exact (String.append_right_inj (f x)).1 (List.mem_singleton.1 hmem)

-- ======================================================== derived names

/-- The names of types. -/
def typeNames (x : String) : List String :=
  pairOfNames capitalize "Responses" "T" x

/-- The names of what makes a decoder. -/
def decoderNames (x : String) : List String :=
  pairOfNames uncapitalize "Default" "Decoder" x

/-- The name of the map of default types. -/
def defaultsName (x : String) : String := uncapitalize x ++ "DefaultResponses"

theorem derivedNames_eq (x : String) :
    derivedNames x = typeNames x ++ (decoderNames x ++ [defaultsName x]) :=
  rfl

/-- A name tells its family by its last character. -/
theorem mem_derivedNames_and_iff {x y name : String} :
    name ∈ derivedNames x ∧ name ∈ derivedNames y
      ↔ (name ∈ typeNames x ∧ name ∈ typeNames y)
        ∨ (name ∈ decoderNames x ∧ name ∈ decoderNames y)
        ∨ name = defaultsName x ∧ name = defaultsName y := by
  have htypes : ∀ {z}, name ∈ typeNames z → EndsLike "T" name :=
    endsLike_of_mem_pair rfl
  have hdecoders : ∀ {z}, name ∈ decoderNames z → EndsLike "Decoder" name :=
    endsLike_of_mem_pair rfl
  have hdefaults : ∀ {z}, name = defaultsName z →
      EndsLike "DefaultResponses" name := by
    rintro z rfl
    exact endsLike_append rfl _
  -- names of two families end in two characters
  have hapart : ∀ {s t : String}, s.toList.getLast? ≠ t.toList.getLast? →
      EndsLike s name → EndsLike t name → False :=
    fun hne hs ht => hne (hs.symm.trans ht)
  simp only [derivedNames_eq, List.mem_append, List.mem_singleton]
  constructor
  · rintro ⟨hx | hx | hx, hy | hy | hy⟩
    · exact Or.inl ⟨hx, hy⟩
    · exact (hapart (by decide) (htypes hx) (hdecoders hy)).elim
    · exact (hapart (by decide) (htypes hx) (hdefaults hy)).elim
    · exact (hapart (by decide) (hdecoders hx) (htypes hy)).elim
    · exact Or.inr (Or.inl ⟨hx, hy⟩)
    · exact (hapart (by decide) (hdecoders hx) (hdefaults hy)).elim
    · exact (hapart (by decide) (hdefaults hx) (htypes hy)).elim
    · exact (hapart (by decide) (hdefaults hx) (hdecoders hy)).elim
    · exact Or.inr (Or.inr ⟨hx, hy⟩)
  · rintro (⟨hx, hy⟩ | ⟨hx, hy⟩ | ⟨hx, hy⟩)
    · exact ⟨Or.inl hx, Or.inl hy⟩
    · exact ⟨Or.inr (Or.inl hx), Or.inr (Or.inl hy)⟩
    · exact ⟨Or.inr (Or.inr hx), Or.inr (Or.inr hy)⟩

/-- The five names of one id are five. -/
theorem derivedNames_nodup (x : String) : (derivedNames x).Nodup := by
  have htypes : ∀ name ∈ typeNames x, EndsLike "T" name :=
    fun _ => endsLike_of_mem_pair rfl
  have hdecoders : ∀ name ∈ decoderNames x, EndsLike "Decoder" name :=
    fun _ => endsLike_of_mem_pair rfl
  have hdefaults : EndsLike "DefaultResponses" (defaultsName x) :=
    endsLike_append rfl _
  rw [derivedNames_eq, List.nodup_append, List.nodup_append]
  refine ⟨pair_nodup (by decide) x,
    ⟨pair_nodup (by decide) x, List.nodup_singleton _, ?_⟩, ?_⟩
  · rintro a ha b hb rfl
    rw [List.mem_singleton.1 hb] at ha
    exact absurd ((hdecoders _ ha).symm.trans hdefaults) (by decide)
  · rintro a ha b hb rfl
    rcases List.mem_append.1 hb with hb | hb
    · exact absurd ((htypes _ ha).symm.trans (hdecoders _ hb)) (by decide)
    · rw [List.mem_singleton.1 hb] at ha
      exact absurd ((htypes _ ha).symm.trans hdefaults) (by decide)

/-- All derived names are identifiers. -/
theorem isIdentifier_of_mem_derivedNames {x name : String}
    (hx : isIdentifier x = true) (h : name ∈ derivedNames x) :
    isIdentifier name = true := by
  obtain ⟨hresponses, hdecoder, hdefault, hdefaults⟩ :=
    isIdentifier_decoderNames hx
  simp only [derivedNames, List.mem_cons, List.not_mem_nil, or_false] at h
  rcases h with rfl | rfl | rfl | rfl | rfl
  · exact isIdentifier_requestTypeName hx
  · exact hresponses
  · exact hdecoder
  · exact hdefault
  · exact hdefaults

-- =========================================================== collisions

/-- An accepted id has five different names, all accepted themselves. Two
accepted ids share one exactly when they are equal up to the case of their
first character, or one of them is so to the other with `Responses` or
`Default` behind it. -/
theorem derivedNames_collide_iff :
    (∀ x, Operation.checkId x = .ok () → (derivedNames x).Nodup
        ∧ ∀ name ∈ derivedNames x, Operation.checkId name = .ok ())
      ∧ ∀ x y, Operation.checkId x = .ok () → Operation.checkId y = .ok () →
        ((∃ name ∈ derivedNames x, name ∈ derivedNames y)
          ↔ SameButFirstCase x y
            ∨ SameButFirstCase y (x ++ "Responses")
            ∨ SameButFirstCase x (y ++ "Responses")
            ∨ SameButFirstCase y (x ++ "Default")
            ∨ SameButFirstCase x (y ++ "Default")) := by
  refine ⟨fun x hx => ?_, fun x y hx hy => ?_⟩
  · rw [Operation.checkId_eq_ok_iff] at hx
    exact ⟨derivedNames_nodup x, fun name h =>
      Operation.checkId_eq_ok_iff.2
        (isIdentifier_of_mem_derivedNames hx h)⟩
  · rw [Operation.checkId_eq_ok_iff] at hx hy
    have htypes : (∃ name ∈ typeNames x, name ∈ typeNames y)
        ↔ SameButFirstCase x y ∨ SameButFirstCase y (x ++ "Responses")
          ∨ SameButFirstCase x (y ++ "Responses") :=
      pairs_meet_iff isStem_capitalize hx hy (by decide) "T"
    have hdecoders : (∃ name ∈ decoderNames x, name ∈ decoderNames y)
        ↔ SameButFirstCase x y ∨ SameButFirstCase y (x ++ "Default")
          ∨ SameButFirstCase x (y ++ "Default") :=
      pairs_meet_iff isStem_uncapitalize hx hy (by decide) "Decoder"
    have hdefaults : defaultsName x = defaultsName y ↔ SameButFirstCase x y :=
      (String.append_left_inj _).trans (isStem_uncapitalize.eq_iff hx hy)
    simp only [mem_derivedNames_and_iff, exists_or, exists_eq_left]
    rw [htypes, hdecoders, hdefaults]
    grind

/-- `FooDefault` makes its decoder under the name of the default decoder of
`foo`, while `fooDecoder` keeps out of its way. -/
theorem foo_collisions :
    (∃ name ∈ derivedNames "foo", name ∈ derivedNames "FooDefault")
      ∧ ¬ (∃ name ∈ derivedNames "foo", name ∈ derivedNames "fooDecoder")
      ∧ ∀ name ∈ derivedNames "foo", Operation.checkId name = .ok () := by
  obtain ⟨hown, hshared⟩ := derivedNames_collide_iff
  refine ⟨(hshared "foo" "FooDefault" rfl rfl).2 (by decide), fun h => ?_,
    (hown "foo" rfl).2⟩
  exact absurd ((hshared "foo" "fooDecoder" rfl rfl).1 h) (by decide)

end ApiContract
