/-
Reading a text off the front of a longer one. Generated code is put together
from words, runs of characters of one kind, literals, and lists with a
separator between the items; for each of these there is a reader here, and
readers are put together as the texts are.

# What stands behind

A reader recovers a value from a text when it reads the value and stops right
behind the text (`Recovers`). A run of characters ends where a character of
another kind stands, and a list where no separator does, so what stands behind
has to begin with a character that does not go on with the text. Each step of
a reader then has one side condition, that what is read next begins with such
a character (`Parse.Recovers.bind`), and none behind a word or a literal,
which end by themselves (`Parse.Recovers.word_bind`).
-/
import Mathlib.Data.List.TakeWhile
import ApiContract.Proofs.Text.Literal

namespace ApiContract.Text

-- ============================================================== readers

/-- Reading something off the front of a text. -/
abbrev Parse (α : Type) := StateT (List Char) Option α

namespace Parse

variable {α β : Type}

/-- A certain word. -/
def word (w : String) : Parse Unit := fun cs =>
  if w.toList.isPrefixOf cs then some ((), cs.drop w.toList.length) else none

/-- As many characters of a kind as there are. -/
def run (kind : Char → Bool) : Parse String :=
  fun cs => some (String.ofList (cs.takeWhile kind), cs.dropWhile kind)

/-- A literal. -/
def quoted : Parse String :=
  fun cs => (readLiteral cs).map fun p => (String.ofList p.1, p.2)

/-- Items with a separator between each two of them; there is at least one.
A separator has to take the reader further. -/
def separated (separator : String) (item : Parse α) :
    Parse (List α) := fun cs =>
  match item cs with
  | none => none
  | some (a, rest) =>
    match word separator rest with
    | none => some ([a], rest)
    | some ((), more) =>
      if more.length < cs.length then
        (separated separator item more).map fun p => (a :: p.1, p.2)
      else none
termination_by cs => cs.length

/-- Something between curly brackets. -/
def inBraces (inside : Parse α) : Parse α := do
  word openBrace
  let a ← inside
  word closeBrace
  return a

/-- A union of types; `never` is the one of no types. -/
def union (item : Parse α) : Parse (List α) :=
  (do word "never"; return []) <|> separated " | " item

/-- A whole text. -/
def whole? (p : Parse α) (s : String) : Option α :=
  match p s.toList with
  | some (a, []) => some a
  | _ => none

-- =========================================================== recovering

/-- The text ends, or goes on with a character that is not of the kind. -/
def Leaves (kind : Char → Bool) (rest : List Char) : Prop :=
  ∀ c ∈ rest.head?, kind c = false

/-- From the text the reader reads the value, and nothing more, unless a
character of the kind stands behind the text. -/
def Recovers (kind : Char → Bool) (p : Parse α) (s : String) (a : α) : Prop :=
  ∀ rest, Leaves kind rest → p (s.toList ++ rest) = some (a, rest)

/-- No character. -/
def never : Char → Bool := fun _ => false

variable {kind kind' : Char → Bool} {p q : Parse α} {s t w : String} {a : α}
  {b : β}

theorem leaves_never (rest : List Char) : Leaves never rest := fun _ _ => rfl

/-- A text that begins with a character of another kind. -/
theorem leaves_toList (h : s.toList.head?.any (! kind ·) = true)
    (rest : List Char) : Leaves kind (s.toList ++ rest) := by
  intro c hc
  cases hs : s.toList with
  | nil =>
      rw [hs] at h
      cases h
  | cons d ds =>
      rw [hs] at h hc
      obtain rfl : d = c := Option.some.inj hc
      simpa using h

theorem leaves_append (h : s.toList.head?.any (! kind ·) = true)
    (t : String) (rest : List Char) :
    Leaves kind ((s ++ t).toList ++ rest) := by
  rw [String.toList_append, List.append_assoc]
  exact leaves_toList h _

theorem Recovers.mono (h : Recovers kind p s a)
    (hkind : ∀ c, kind c = true → kind' c = true) : Recovers kind' p s a := by
  intro rest hrest
  apply h
  intro c hc
  have hc' := hrest c hc
  rw [Bool.eq_false_iff] at hc' ⊢
  exact fun hk => hc' (hkind c hk)

theorem Recovers.of_never (h : Recovers never p s a) : Recovers kind p s a :=
  h.mono fun _ h => by cases h

/-- What is recovered from the whole of a text. -/
theorem Recovers.whole? (h : Recovers kind p s a) : p.whole? s = some a := by
  have hread := h [] fun c hc => by cases hc
  rw [List.append_nil] at hread
  unfold Parse.whole?
  rw [hread]

-- =============================================================== readers

theorem word_append (w : String) (rest : List Char) :
    word w (w.toList ++ rest) = some ((), rest) := by
  have hprefix : w.toList.isPrefixOf (w.toList ++ rest) = true :=
    List.isPrefixOf_iff_prefix.2 (List.prefix_append _ _)
  unfold word
  rw [if_pos hprefix, List.drop_left]

theorem recovers_word (w : String) : Recovers never (word w) w () :=
  fun rest _ => word_append w rest

/-- A literal begins with a quote. -/
theorem quoted_eq_none {rest : List Char} (h : Leaves (· == '"') rest) :
    quoted rest = none := by
  cases rest with
  | nil => rfl
  | cons c cs =>
      have hc : c ≠ '"' := by simpa using h c rfl
      unfold quoted readLiteral
      split
      case h_1 heq => exact absurd (List.cons.inj heq).1 hc
      case h_2 => rfl

/-- A word is not read where its first character does not stand. -/
theorem word_eq_none {c : Char} (hw : w.toList.head? = some c)
    {rest : List Char} (hrest : Leaves (· == c) rest) :
    word w rest = none := by
  obtain ⟨cs, hcs⟩ := List.head?_eq_some_iff.1 hw
  unfold word
  apply if_neg
  rw [List.isPrefixOf_iff_prefix, hcs]
  rintro ⟨behind, rfl⟩
  have hself : (c == c) = false := hrest c rfl
  rw [beq_self_eq_true] at hself
  cases hself

/-- Nor is it read where another word stands, when neither of the two begins
with the other. -/
theorem word_eq_none_of_other {v : String}
    (hw : ¬ w.toList <+: v.toList) (hv : ¬ v.toList <+: w.toList)
    (rest : List Char) : word w (v.toList ++ rest) = none := by
  unfold word
  apply if_neg
  rw [List.isPrefixOf_iff_prefix]
  intro hprefix
  have heither := List.prefix_or_prefix_of_prefix hprefix
    (List.prefix_append v.toList rest)
  rcases heither with h | h
  · exact hw h
  · exact hv h

theorem recovers_run (h : AllChars (kind · = true) s) :
    Recovers kind (run kind) s s := by
  intro rest hrest
  unfold run
  rw [List.takeWhile_append_of_pos h, List.dropWhile_append_of_pos h]
  cases rest with
  | nil => simp
  | cons c cs =>
      have hc : ¬ kind c = true := by
        rw [Bool.not_eq_true]
        exact hrest c rfl
      rw [List.takeWhile_cons_of_neg hc, List.dropWhile_cons_of_neg hc,
        List.append_nil, String.ofList_toList]

theorem recovers_quoted (s : String) :
    Recovers never quoted (literal s) s := by
  intro rest _
  unfold quoted
  rw [readLiteral_literal]
  simp

-- ========================================================= put together

theorem recovers_pure (a : α) : Recovers never (pure a) "" a :=
  fun _ _ => rfl

/-- One text behind the other, and the readers likewise. -/
theorem Recovers.bind {f : α → Parse β} (hp : Recovers kind p s a)
    (hf : Recovers kind' (f a) t b)
    (hnext : ∀ rest, Leaves kind' rest → Leaves kind (t.toList ++ rest)) :
    Recovers kind' (p >>= f) (s ++ t) b := by
  intro rest hrest
  show (p ((s ++ t).toList ++ rest)).bind (fun x => f x.1 x.2) = _
  rw [String.toList_append, List.append_assoc, hp _ (hnext rest hrest)]
  exact hf rest hrest

/-- What ends by itself. -/
theorem Recovers.never_bind {f : α → Parse β} (hp : Recovers never p s a)
    (hf : Recovers kind (f a) t b) : Recovers kind (p >>= f) (s ++ t) b :=
  hp.bind hf fun _ _ => leaves_never _

theorem Recovers.word_bind {f : Unit → Parse β}
    (hf : Recovers kind (f ()) t b) :
    Recovers kind (word w >>= f) (w ++ t) b :=
  (recovers_word w).never_bind hf

/-- What ends before a word. -/
theorem Recovers.bind_word {f : α → Unit → Parse β}
    (hp : Recovers kind p s a)
    (hw : w.toList.head?.any (! kind ·) = true)
    (hf : Recovers kind' (f a ()) t b) :
    Recovers kind' (p >>= fun x => word w >>= f x) (s ++ (w ++ t)) b :=
  hp.bind hf.word_bind fun rest _ => leaves_append hw t rest

/-- What is made of the value that was read last. -/
theorem Recovers.bind_pure {f : α → β} (hp : Recovers kind p s a) :
    Recovers kind (p >>= fun x => pure (f x)) s (f a) := by
  intro rest hrest
  show (p (s.toList ++ rest)).bind (fun x => some (f x.1, x.2)) = _
  rw [hp rest hrest]
  rfl

/-- What is between the brackets has to end before the closing one. -/
theorem Recovers.inBraces (hp : Recovers kind p s a)
    (hclose : kind '}' = false) :
    Recovers never (inBraces p) (braced s) a := by
  have hhead : closeBrace.toList.head?.any (! kind ·) = true := by
    show (! kind '}') = true
    rw [hclose]
    rfl
  unfold braced
  rw [String.append_assoc]
  exact .word_bind (hp.bind (recovers_word closeBrace).bind_pure
    fun rest _ => leaves_toList hhead rest)

theorem Recovers.orElse_left (hp : Recovers kind p s a) :
    Recovers kind (p <|> q) s a := by
  intro rest hrest
  show (p (s.toList ++ rest) <|> q (s.toList ++ rest)) = _
  rw [hp rest hrest]
  rfl

theorem Recovers.orElse_right
    (hp : ∀ rest, Leaves kind rest → p (s.toList ++ rest) = none)
    (hq : Recovers kind q s a) : Recovers kind (p <|> q) s a := by
  intro rest hrest
  show (p (s.toList ++ rest) <|> q (s.toList ++ rest)) = _
  rw [hp rest hrest]
  exact hq rest hrest

/-- Where another word stands than the one that the first reader begins with,
the second one reads. -/
theorem Recovers.word_orElse {f : Unit → Parse α} {v : String}
    (hw : ¬ w.toList <+: v.toList) (hv : ¬ v.toList <+: w.toList)
    (hq : Recovers kind q (v ++ t) a) :
    Recovers kind ((word w >>= f) <|> q) (v ++ t) a := by
  refine .orElse_right (fun rest _ => ?_) hq
  show (word w ((v ++ t).toList ++ rest)).bind _ = none
  rw [String.toList_append, List.append_assoc, word_eq_none_of_other hw hv]
  rfl

-- ================================================================ lists

/-- The items of a list are recovered when each of them is, with a character
behind it that begins the separator, and when the list is not followed by
such a character. -/
theorem recovers_separated {γ : Type} {separator : String} {item : Parse α}
    {text : γ → String} {value : γ → α} {c : Char}
    (hhead : separator.toList.head? = some c) (hc : kind c = false) :
    ∀ {as : List γ}, as ≠ [] →
      (∀ x ∈ as, Recovers kind item (text x) (value x)) →
      Recovers (fun d => kind d || d == c) (separated separator item)
        (separator.intercalate (as.map text)) (as.map value) := by
  obtain ⟨cs, hcs⟩ := List.head?_eq_some_iff.1 hhead
  intro as
  induction as with
  | nil => exact fun h => absurd rfl h
  | cons x more ih =>
      intro _ hitem rest hrest
      obtain ⟨hx, hmore⟩ := List.forall_mem_cons.1 hitem
      have hleaves : Leaves kind rest ∧ Leaves (· == c) rest :=
        ⟨fun d hd => (Bool.or_eq_false_iff.1 (hrest d hd)).1,
          fun d hd => (Bool.or_eq_false_iff.1 (hrest d hd)).2⟩
      cases more with
      | nil =>
          rw [List.map_singleton, List.map_singleton,
            String.intercalate_singleton, separated,
            hx rest hleaves.1]
          dsimp only
          rw [word_eq_none hhead hleaves.2]
      | cons y more =>
          -- behind the first item stand a separator and the other items
          obtain ⟨behind, hbehind⟩ : ∃ behind, behind
            = (separator.intercalate ((y :: more).map text)).toList ++ rest :=
            ⟨_, rfl⟩
          have hwhole : (separator.intercalate
              ((x :: y :: more).map text)).toList ++ rest
                = (text x).toList ++ (separator.toList ++ behind) := by
            rw [hbehind, List.map_cons, List.map_cons,
              String.intercalate_cons_cons, ← List.map_cons]
            simp only [String.toList_append, List.append_assoc]
          have hnext : Leaves kind (separator.toList ++ behind) := by
            intro d hd
            rw [hcs] at hd
            obtain rfl : c = d := Option.some.inj hd
            exact hc
          have hfurther : behind.length
              < ((text x).toList ++ (separator.toList ++ behind)).length := by
            rw [hcs]
            simp only [List.length_append, List.length_cons]
            omega
          have hrec := ih (List.cons_ne_nil _ _) hmore rest hrest
          rw [← hbehind] at hrec
          rw [hwhole, separated, hx _ hnext]
          dsimp only
          rw [word_append]
          dsimp only
          rw [if_pos hfurther, hrec]
          rfl

/-- A union is recovered when no member of it can be taken for `never`. -/
theorem recovers_union {γ : Type} {item : Parse α} {text : γ → String}
    {value : γ → α} (hw : ¬ "never".toList <+: w.toList)
    (hv : ¬ w.toList <+: "never".toList) {as : List γ}
    (htext : ∀ x ∈ as, ∃ t, text x = w ++ t)
    (hitem : ∀ x ∈ as, Recovers never item (text x) (value x)) :
    Recovers (· == ' ') (union item)
      (if as.isEmpty then "never" else " | ".intercalate (as.map text))
      (as.map value) := by
  cases as with
  | nil => exact (recovers_word "never").bind_pure.of_never.orElse_left
  | cons x more =>
      have hlist : Recovers _ (separated " | " item)
          (" | ".intercalate ((x :: more).map text))
          ((x :: more).map value) :=
        recovers_separated (c := ' ') rfl rfl (List.cons_ne_nil x more) hitem
      obtain ⟨t, ht⟩ := htext x List.mem_cons_self
      show Recovers _ _ (" | ".intercalate (text x :: more.map text)) _
      rw [List.map_cons, ht, String.intercalate_cons_append] at hlist
      rw [ht, String.intercalate_cons_append]
      refine .word_orElse hw hv (hlist.mono ?_)
      intro c hc
      simpa [never] using hc

theorem recovers_unionOfLiterals (names : List String) :
    Recovers (· == ' ') (union quoted) (unionOfLiterals names) names := by
  have h : Recovers (· == ' ') (union quoted) (unionOfLiterals names)
      (names.map id) := by
    refine recovers_union (w := "\"") ?_ ?_ ?_ ?_
    · decide
    · decide
    · intro name _
      exact ⟨escape name ++ "\"", String.append_assoc ..⟩
    · exact fun name _ => recovers_quoted name
  rw [List.map_id] at h
  exact h

end Parse

end ApiContract.Text
