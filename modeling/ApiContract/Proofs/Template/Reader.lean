/-
How the reader takes a template apart, told part by part. `Place.Reads` says
what a stretch of text is read as, given enough steps, and up to where; its
lemmas put a part in front of a stretch that is read already: plain text, an
output, a loop, a condition. A tag that ends a body is no part of it, so there
reading stops (`reads_stop`).

Which tag stands somewhere is decided by its keyword alone. Two keywords of
which neither begins with the other cannot be taken for one another
(`Clash`), whatever follows them, so one lemma says of a tag that it is no
simple part (`readSimple?_of_clash`) and one that no body begins with it
(`readCompound?_of_clash`).
-/
import ApiContract.Template.Node.Reader

namespace ApiContract.Template

-- ================================================== statement vocabulary

/-- With so many steps, or more, a text is read as these parts, up to this
rest, and no macro is defined in it. -/
def Place.Reads (place : Place) (steps : Nat) (cs : List Char)
    (parts : List Part) (rest : List Char) : Prop :=
  ∀ fuel, steps ≤ fuel → readParts? place fuel cs = (parts, [], rest)

/-- A word is looked for where a keyword stands, and neither begins with the
other. -/
def Clash (word keyword : String) : Prop :=
  ¬ word.toList <+: keyword.toList ∧ ¬ keyword.toList <+: word.toList
    ∧ keyword.toList.head?.any isSpace = false

instance (word keyword : String) : Decidable (Clash word keyword) :=
  inferInstanceAs (Decidable (_ ∧ _ ∧ _))

/-- The text of a tag up to its keyword, and what is behind that. -/
def tagText (keyword : String) (rest : List Char) : List Char :=
  '{' :: '%' :: ' ' :: (keyword.toList ++ rest)

-- =============================================================== keywords

variable {word keyword : String} {rest : List Char}

theorem skipWord?_of_clash (h : Clash word keyword) (rest : List Char) :
    skipWord? word (' ' :: (keyword.toList ++ rest)) = none := by
  obtain ⟨hword, hkeyword, hblank⟩ := h
  have hskip : skipSpace (' ' :: (keyword.toList ++ rest))
      = keyword.toList ++ rest := by
    unfold skipSpace
    rw [List.dropWhile_cons_of_pos rfl]
    cases hlist : keyword.toList with
    | nil => exact absurd (hlist ▸ List.nil_prefix) hkeyword
    | cons c cs =>
        rw [hlist] at hblank
        rw [List.cons_append, List.dropWhile_cons_of_neg]
        rw [Bool.not_eq_true]
        exact hblank
  unfold skipWord? skipMark?
  rw [hskip]
  refine if_neg fun hprefix => ?_
  rw [List.isPrefixOf_iff_prefix] at hprefix
  rcases List.prefix_or_prefix_of_prefix hprefix
    (List.prefix_append keyword.toList rest) with hw | hk
  · exact hword hw
  · exact hkeyword hk

/-- A tag with one keyword is not read as one with another. -/
theorem readTag?_of_clash {α : Type} (h : Clash word keyword)
    (inside : List Char → Option (α × List Char)) (rest : List Char) :
    readTag? (behindKeyword? word inside) (tagText keyword rest) = none := by
  have hbehind :
      behindKeyword? word inside (' ' :: (keyword.toList ++ rest)) = none := by
    unfold behindKeyword? skipWholeWord?
    rw [skipWord?_of_clash h]
    rfl
  show (behindKeyword? word inside (' ' :: (keyword.toList ++ rest))).bind _ = _
  rw [hbehind]
  rfl

theorem readBareTag?_of_clash (h : Clash word keyword) (rest : List Char) :
    readBareTag? word (tagText keyword rest) = none := by
  unfold readBareTag?
  show (((skipWord? word (' ' :: (keyword.toList ++ rest))).bind _).bind _).bind
    _ = _
  rw [skipWord?_of_clash h]
  rfl

/-- A word is found where it stands behind a blank, unless it begins with a
blank itself. -/
theorem skipWord?_self (h : word.toList.head?.any (!isSpace ·) = true)
    (rest : List Char) :
    skipWord? word (' ' :: (word.toList ++ rest)) = some rest := by
  have hskip : skipSpace (' ' :: (word.toList ++ rest))
      = word.toList ++ rest := by
    unfold skipSpace
    rw [List.dropWhile_cons_of_pos rfl]
    cases hlist : word.toList with
    | nil =>
        rw [hlist] at h
        cases h
    | cons c cs =>
        rw [hlist] at h
        rw [List.cons_append, List.dropWhile_cons_of_neg]
        simpa using h
  unfold skipWord? skipMark?
  rw [hskip, if_pos (List.isPrefixOf_iff_prefix.2 (List.prefix_append _ _)),
    ← String.length_toList, List.drop_left]

/-- A tag with its own keyword, when what it looks for is behind that. -/
theorem readTag?_self {α : Type} {inside : List Char → Option (α × List Char)}
    {a : α} {behind : Bool} {after next : List Char}
    (h : word.toList.head?.any (!isSpace ·) = true)
    (hinside : inside (skipSpace rest) = some (a, after))
    (hclosing : readClosing? tagEnd after = some (behind, next)) :
    readTag? (behindKeyword? word inside) (tagText word (' ' :: rest))
      = some (a, ⟨false, behind⟩, next) := by
  have hbehind : behindKeyword? word inside
      (' ' :: (word.toList ++ ' ' :: rest)) = some (a, after) := by
    unfold behindKeyword? skipWholeWord?
    rw [skipWord?_self h]
    exact hinside
  show (behindKeyword? word inside
    (' ' :: (word.toList ++ ' ' :: rest))).bind _ = _
  rw [hbehind]
  show (readClosing? tagEnd after).bind _ = _
  rw [hclosing]
  rfl

theorem readBareTag?_self {behind : Bool} {next : List Char}
    (h : word.toList.head?.any (!isSpace ·) = true)
    (hclosing : readClosing? tagEnd rest = some (behind, next)) :
    readBareTag? word (tagText word rest) = some (⟨false, behind⟩, next) := by
  unfold readBareTag?
  show (((skipWord? word (' ' :: (word.toList ++ rest))).bind _).bind _).bind
    _ = _
  rw [skipWord?_self h]
  show ((readClosing? tagEnd rest).bind _).bind _ = _
  rw [hclosing]
  rfl

/-- The words behind which a tag is a part without a body. -/
def simpleWords : List String :=
  ["raw", "set", "set_global", "include", "break", "continue"]

/-- The words behind which a tag begins a body. -/
def compoundWords : List String := ["if", "for", "filter", "block", "macro"]

/-- A tag with none of these keywords is no part without a body. -/
theorem readSimple?_of_clash (h : ∀ word ∈ simpleWords, Clash word keyword)
    (place : Place) (rest : List Char) :
    readSimple? place (tagText keyword rest) = none := by
  have hraw := readBareTag?_of_clash (h "raw" (by decide)) rest
  have hset := readTag?_of_clash (h "set" (by decide)) readAssignment? rest
  have hsetGlobal :=
    readTag?_of_clash (h "set_global" (by decide)) readAssignment? rest
  have hinclude := readTag?_of_clash (h "include" (by decide)) readOthers? rest
  have hbreak := readBareTag?_of_clash (h "break" (by decide)) rest
  have hcontinue := readBareTag?_of_clash (h "continue" (by decide)) rest
  unfold readSimple?
  simp only [hraw, hset, hsetGlobal, hinclude, hbreak, hcontinue]
  cases place.inLoop <;> rfl

/-- And it begins no body. -/
theorem readCompound?_of_clash
    (h : ∀ word ∈ compoundWords, Clash word keyword) (place : Place)
    (fuel : Nat) (rest : List Char) :
    readCompound? place fuel (tagText keyword rest) = none := by
  cases fuel with
  | zero => rfl
  | succ fuel =>
      unfold readCompound? readConditionTag?
      rw [readTag?_of_clash (h "if" (by decide)),
        readTag?_of_clash (h "for" (by decide)),
        readTag?_of_clash (h "filter" (by decide)),
        readTag?_of_clash (h "block" (by decide)),
        readTag?_of_clash (h "macro" (by decide))]
      cases place.hasMacros <;> rfl

-- ============================================================== stretches

namespace Place

variable {place : Place} {steps : Nat} {cs next rest : List Char}
  {parts : List Part}

/-- Nothing opens with what is no brace. -/
theorem isOpening_eq_false {c : Char} (h : c ≠ '{') (cs : List Char) :
    isOpening (c :: cs) = false := by
  unfold isOpening
  split
  next heq => exact absurd (List.cons.inj heq).1 h
  next => rfl

theorem plainText_append {text : List Char} (htext : '{' ∉ text)
    (hnext : next = [] ∨ isOpening next = true) :
    plainText (text ++ next) = (text, next) := by
  induction text with
  | nil =>
      rw [List.nil_append]
      rcases hnext with rfl | hopen
      · rfl
      · cases next with
        | nil => rfl
        | cons c cs =>
            unfold plainText
            rw [if_pos hopen]
  | cons c text ih =>
      rw [List.mem_cons, not_or] at htext
      rw [List.cons_append]
      unfold plainText
      rw [isOpening_eq_false (Ne.symm htext.1), ih htext.2]
      rfl

/-- What is read where something opens. -/
theorem readParts?_of_opening (hopen : isOpening cs = true) (fuel : Nat) :
    readParts? place (fuel + 1) cs
      = match (readSimple? place cs).map (fun r => (r.1, [], r.2))
          <|> readCompound? place fuel cs with
        | none => ([], [], cs)
        | some (p, macros, next) =>
          let (parts, macros', rest) := readParts? place fuel next
          (p :: parts, macros ++ macros', rest) := by
  cases cs with
  | nil => cases hopen
  | cons c cs =>
      rw [readParts?]
      dsimp only
      rw [if_pos hopen]
      rfl

theorem reads_nil : place.Reads 0 [] [] [] := by
  intro fuel _
  cases fuel <;> rfl

/-- A tag that ends a body is where reading stops. -/
theorem reads_stop {keyword : String}
    (hsimple : ∀ word ∈ simpleWords, Clash word keyword)
    (hcompound : ∀ word ∈ compoundWords, Clash word keyword)
    (rest : List Char) :
    place.Reads 0 (tagText keyword rest) [] (tagText keyword rest) := by
  intro fuel _
  cases fuel with
  | zero => rfl
  | succ fuel =>
      rw [readParts?_of_opening rfl, readSimple?_of_clash hsimple,
        readCompound?_of_clash hcompound]
      rfl

/-- Plain text in front, up to the next brace. -/
theorem Reads.text {text : List Char} (h : place.Reads steps next parts rest)
    (hne : text ≠ []) (htext : '{' ∉ text)
    (hnext : next = [] ∨ isOpening next = true) :
    place.Reads (steps + 1) (text ++ next) (.text text :: parts) rest := by
  intro fuel hfuel
  obtain ⟨fuel, rfl⟩ := Nat.exists_eq_add_of_le' hfuel
  have hplain := plainText_append htext hnext
  obtain ⟨c, cs, rfl⟩ := List.exists_cons_of_ne_nil hne
  rw [List.mem_cons, not_or] at htext
  rw [List.cons_append] at hplain ⊢
  rw [← Nat.add_assoc, readParts?]
  dsimp only
  rw [if_neg (by rw [isOpening_eq_false (Ne.symm htext.1)]; decide), hplain,
    h _ (Nat.le_add_left steps fuel)]

/-- A part without a body in front. -/
theorem Reads.simple {p : Part} (h : place.Reads steps next parts rest)
    (hopen : isOpening cs = true)
    (hpart : readSimple? place cs = some (p, next)) :
    place.Reads (steps + 1) cs (p :: parts) rest := by
  intro fuel hfuel
  obtain ⟨fuel, rfl⟩ := Nat.exists_eq_add_of_le' hfuel
  rw [← Nat.add_assoc, readParts?_of_opening hopen, hpart]
  show (p :: (readParts? place _ next).1, _, _) = _
  rw [h _ (Nat.le_add_left steps fuel)]
  rfl

/-- A part with a body in front. -/
theorem Reads.compound {p : Part} {inner : Nat}
    (h : place.Reads steps next parts rest) (hopen : isOpening cs = true)
    (hsimple : readSimple? place cs = none)
    (hpart : ∀ fuel, inner ≤ fuel →
      readCompound? place fuel cs = some (p, [], next)) :
    place.Reads (steps + inner + 1) cs (p :: parts) rest := by
  intro fuel hfuel
  obtain ⟨fuel, rfl⟩ := Nat.exists_eq_add_of_le' hfuel
  rw [← Nat.add_assoc, readParts?_of_opening hopen, hsimple,
    hpart _ (by omega)]
  show (p :: (readParts? place _ next).1, _, _) = _
  rw [h _ (by omega)]
  rfl

/-- Where the body of a loop stands. -/
def insideLoop (place : Place) : Place :=
  { place with inLoop := true, hasBlocks := false }

/-- A loop in front: its tag, its body, and the tag that ends it. -/
theorem Reads.loop {key : Option String} {name : String}
    {container : Expression} {cuts last : Cuts} {inner : Nat}
    {bodyText afterBody : List Char} {body : List Part}
    (h : place.Reads steps next parts rest)
    (hopen : isOpening cs = true) (hsimple : readSimple? place cs = none)
    (hif : readConditionTag? "if" cs = none)
    (hfor : readTag? (behindKeyword? "for" readLoopHead?) cs
      = some ((key, name, container), cuts, bodyText))
    (hbody : place.insideLoop.Reads inner bodyText body afterBody)
    (helse : readBareTag? "else" afterBody = none)
    (hend : readBareTag? "endfor" afterBody = some (last, next)) :
    place.Reads (steps + (inner + 1) + 1) cs
      (.other (some (.loop key name container
        (place.nodesOf cuts.behind last.before body) []))
        ⟨cuts.before, last.behind⟩ :: parts) rest := by
  refine h.compound hopen hsimple fun fuel hfuel => ?_
  obtain ⟨fuel, rfl⟩ := Nat.exists_eq_add_of_le' hfuel
  have hsecond : readSecondBodies place.insideLoop (fuel + inner) afterBody
      = ([], afterBody) := by
    cases fuel + inner with
    | zero => rfl
    | succ fuel =>
        rw [readSecondBodies, helse]
  have hinside := hbody _ (Nat.le_add_left inner fuel)
  unfold insideLoop at hinside hsecond
  rw [← Nat.add_assoc, readCompound?, hif, hfor]
  dsimp only
  rw [hinside]
  dsimp only
  rw [hsecond]
  dsimp only
  rw [hend]
  rfl

/-- A condition in front: its tag, its body, and the tag that ends it. -/
theorem Reads.condition {e : Expression} {cuts last : Cuts} {inner : Nat}
    {bodyText afterBody : List Char} {body : List Part}
    (h : place.Reads steps next parts rest)
    (hopen : isOpening cs = true) (hsimple : readSimple? place cs = none)
    (hif : readConditionTag? "if" cs = some (e, cuts, bodyText))
    (hbody : place.Reads inner bodyText body afterBody)
    (helif : readConditionTag? "elif" afterBody = none)
    (helse : readBareTag? "else" afterBody = none)
    (hend : readBareTag? "endif" afterBody = some (last, next)) :
    place.Reads (steps + (inner + 2) + 1) cs
      (.other (some (.condition e
        (place.nodesOf cuts.behind last.before body) []))
        ⟨cuts.before, last.behind⟩ :: parts) rest := by
  refine h.compound hopen hsimple fun fuel hfuel => ?_
  obtain ⟨fuel, rfl⟩ := Nat.exists_eq_add_of_le' hfuel
  have hbranches : readBranches? place e cuts.behind (fuel + inner + 1) bodyText
      = some (.condition e (place.nodesOf cuts.behind last.before body) [],
        last.behind, [], next) := by
    rw [readBranches?, hbody _ (Nat.le_add_left inner fuel)]
    dsimp only
    rw [helif, helse, hend]
    rfl
  rw [show fuel + (inner + 2) = fuel + inner + 1 + 1 by omega,
    readCompound?, hif]
  dsimp only
  rw [hbranches]
  rfl

end Place

-- ============================================================== templates

/-- A template that begins with plain text is read when all of its text is,
within the steps that there are, and no two blocks have one name. -/
theorem read?_of_reads {s : String} {steps : Nat} {c : Char}
    {cs : List Char} {parts : List Part} (htext : s.toList = c :: cs)
    (hc : c ≠ '{')
    (h : Place.Reads { hasMacros := true } steps s.toList parts [])
    (hsteps : steps ≤ 3 * s.toList.length + 3)
    (hblocks : (Node.blockNames.namesOf (nodesOf false false parts)).Nodup) :
    Template.read? s = some ⟨nodesOf false false parts, []⟩ := by
  have hskip : ∀ n, skipComments n (c :: cs) = c :: cs := by
    intro n
    cases n with
    | zero => rfl
    | succ n =>
        have hnone : readWholeComment? (c :: cs) = none := by
          have hopening : readOpening? '#' (c :: cs) = none := by
            unfold readOpening?
            split
            next heq => exact absurd (List.cons.inj heq).1 hc
            next heq => exact absurd (List.cons.inj heq).1 hc
            next => rfl
          unfold readWholeComment?
          rw [hopening]
          rfl
        rw [skipComments, hnone]
  have hread := h _ hsteps
  unfold Template.read?
  rw [htext] at hread ⊢
  rw [hskip]
  dsimp only
  rw [hread]
  show (if ¬ (Node.blockNames.namesOf (nodesOf false false parts)).Nodup
    ∨ ¬ ([] : List String).Nodup then _ else _) = _
  rw [if_neg fun h => h.elim (absurd hblocks) (absurd List.nodup_nil)]
  rfl

end ApiContract.Template
