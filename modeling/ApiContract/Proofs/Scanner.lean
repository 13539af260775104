/-
A scanner for generated code. It walks over a text character by character
and tells code from comments and string literals, and in code it keeps the
closing brackets that are owed. A text is well formed for the scanner when
it can be read from code to code with nothing owed at either end.

# How texts are shown to be well formed

Generated code is put together from pieces, so the law that carries every
proof is `Reads.append`: a text that leads from one state to another and one
that leads on from there make a text that leads all the way. Fixed pieces
are read by computation, whatever brackets are owed around them. Pieces
that depend on the operation are `Inert`: they lead from code to code and
leave the owed brackets as they are. Inert texts are closed under appending,
joining and type application; identifiers, literals and type texts are
inert for three different reasons:

- an identifier holds no mark that the scanner looks at,
- a literal is entered and left, and what is escaped inside neither ends it
  nor breaks the line (`reads_escapeChar`),
- a type text holds no mark that begins a literal or a comment, and its
  brackets are well nested, which is the scanner's own rule (`inert_of_type`).
-/
import ApiContract.Proofs.Identifier

namespace ApiContract

-- =========================================================== brackets

namespace Bracket

/-- The bracket that closes an opening one. -/
def closing? : Char → Option Char
  | '(' => some ')'
  | '[' => some ']'
  | '{' => some '}'
  | _ => none

/-- The closing brackets. -/
def closers : List Char := [')', ']', '}']

/-- One character, with the closing brackets owed so far, innermost first.
An opening bracket owes one more, a closing one must be the innermost. -/
def step (owed : List Char) (c : Char) : Option (List Char) :=
  match closing? c with
  | some d => some (d :: owed)
  | none =>
    if c ∈ closers then
      match owed with
      | [] => none
      | d :: outer => if c = d then some outer else none
    else some owed

/-- Round, square and curly brackets are well nested in the text. -/
def WellNested (s : String) : Prop := s.toList.foldlM step [] = some []

instance (s : String) : Decidable (WellNested s) :=
  inferInstanceAs (Decidable (_ = _))

end Bracket

-- ============================================================== scanner

namespace Scanner

/-- Where the scanner stands: in code, in code behind a slash that may begin
a comment, in a comment up to the line's end, in a comment up to a star and
a slash (behind a star or not), in a literal, in a literal behind a
backslash. -/
inductive Mode where
  | code
  | slash
  | lineComment
  | blockComment
  | blockStar
  | literal
  | escaped
  deriving DecidableEq, Repr

/-- The mode, with the closing brackets that the code owes. -/
structure State where
  mode : Mode
  owed : List Char
  deriving DecidableEq, Repr

/-- Nothing read, or everything closed. -/
def State.start : State := ⟨.code, []⟩

/-- The characters that end a line. -/
def lineBreaks : List Char := ['\n', '\r']

/-- The marks of literals that the scanner does not read. -/
def otherQuotes : List Char := "'`".toList

/-- One character of code. A mark of a literal of another kind is refused,
as anything could follow it. -/
def codeStep (owed : List Char) (c : Char) : Option State :=
  if c = '"' then some ⟨.literal, owed⟩
  else if c = '/' then some ⟨.slash, owed⟩
  else if c ∈ otherQuotes then none
  else (Bracket.step owed c).map (⟨.code, ·⟩)

/-- One character. A line break in a literal is refused, except behind a
backslash, which takes any character with it. -/
def step (s : State) (c : Char) : Option State :=
  match s.mode with
  | .code => codeStep s.owed c
  | .slash =>
    if c = '/' then some ⟨.lineComment, s.owed⟩
    else if c = '*' then some ⟨.blockComment, s.owed⟩
    else codeStep s.owed c
  | .lineComment =>
    if c ∈ lineBreaks then some ⟨.code, s.owed⟩ else some s
  | .blockComment => if c = '*' then some ⟨.blockStar, s.owed⟩ else some s
  | .blockStar =>
    if c = '/' then some ⟨.code, s.owed⟩
    else if c = '*' then some s
    else some ⟨.blockComment, s.owed⟩
  | .literal =>
    if c = '"' then some ⟨.code, s.owed⟩
    else if c = '\\' then some ⟨.escaped, s.owed⟩
    else if c ∈ lineBreaks then none
    else some s
  | .escaped => some ⟨.literal, s.owed⟩

/-- Reading the text leads from the first state to the second. -/
def Reads (s : State) (text : String) (t : State) : Prop :=
  text.toList.foldlM step s = some t

instance (s : State) (text : String) (t : State) : Decidable (Reads s text t) :=
  inferInstanceAs (Decidable (_ = _))

/-- The whole text is read without an error, from code to code, and its
brackets outside comments and literals are well nested. -/
def WellFormed (text : String) : Prop := Reads .start text .start

instance (text : String) : Decidable (WellFormed text) :=
  inferInstanceAs (Decidable (Reads .start text .start))

example : WellFormed "/* ( */ const a = [\"\\\"]\"]; // )\n" := by
  decide +kernel

/-- Reading the text leads from code to code and leaves what is owed. -/
def Inert (text : String) : Prop :=
  ∀ owed, Reads ⟨.code, owed⟩ text ⟨.code, owed⟩

/-- The marks that begin a literal or a comment. -/
def starters : List Char := "\"'`/".toList

/-- A text that can stand where the generated code has a type: it begins no
literal and no comment, and its brackets are well nested. -/
structure IsTypeText (s : String) : Prop where
  noStarter : Text.AllChars (· ∉ starters) s
  nested : Bracket.WellNested s

instance (s : String) : Decidable (IsTypeText s) :=
  decidable_of_iff (Text.AllChars (· ∉ starters) s ∧ Bracket.WellNested s)
    ⟨fun h => ⟨h.1, h.2⟩, fun h => ⟨h.1, h.2⟩⟩

open Text

variable {s t : String}

-- ======================================================== reading on

/-- Reading one text and then another. -/
theorem Reads.append {a b c : State} (h : Reads a s b)
    (h' : Reads b t c) : Reads a (s ++ t) c := by
  unfold Reads at h h' ⊢
  rw [String.toList_append, List.foldlM_append, h]
  exact h'

/-- A text keeps the state when each of its characters does. -/
theorem reads_of_stays {a : State}
    (h : AllChars (fun c => step a c = some a) s) : Reads a s a := by
  unfold Reads
  have key : ∀ cs : List Char, (∀ c ∈ cs, step a c = some a) →
      cs.foldlM step a = some a := by
    intro cs
    induction cs with
    | nil => intro _; rfl
    | cons c rest ih =>
        intro hcs
        rw [List.foldlM_cons, hcs c (List.mem_cons_self ..)]
        exact ih fun d hd => hcs d (List.mem_cons_of_mem _ hd)
  exact key s.toList h

-- =========================================================== inert texts

theorem inert_empty : Inert "" := fun _ => rfl

theorem Inert.append (hs : Inert s) (ht : Inert t) : Inert (s ++ t) :=
  fun owed => (hs owed).append (ht owed)

theorem appendClosed_inert : AppendClosed Inert where
  empty := inert_empty
  append := Inert.append

theorem Inert.intercalate_map {α : Type} {as : List α} {f : α → String}
    (hs : Inert s) (has : ∀ a ∈ as, Inert (f a)) :
    Inert (s.intercalate (as.map f)) :=
  appendClosed_inert.intercalate hs (List.forall_mem_map.2 has)

theorem Inert.withGenerics {base : String} {arguments : List String}
    (hbase : Inert base) (harguments : ∀ a ∈ arguments, Inert a) :
    Inert (withGenerics base arguments) := by
  have hopen : Inert "<" := fun _ => rfl
  have hcomma : Inert ", " := fun _ => rfl
  have hclose : Inert ">" := fun _ => rfl
  exact appendClosed_inert.withGenerics hopen hcomma hclose hbase harguments

/-- Curly brackets around an inert text are opened once and closed once. -/
theorem Inert.braced (hs : Inert s) : Inert (braced s) := by
  intro owed
  have hopen : Reads ⟨.code, owed⟩ openBrace ⟨.code, '}' :: owed⟩ := rfl
  have hclose : Reads ⟨.code, '}' :: owed⟩ closeBrace ⟨.code, owed⟩ := rfl
  exact (hopen.append (hs _)).append hclose

-- ======================================================== brackets kept

/-- What a piece of text does to the brackets owed does not depend on what
is owed around it. -/
theorem bracketStep_append {owed next : List Char} {c : Char}
    (h : Bracket.step owed c = some next) (outer : List Char) :
    Bracket.step (owed ++ outer) c = some (next ++ outer) := by
  unfold Bracket.step at h ⊢
  cases hclosing : Bracket.closing? c with
  | some d =>
      rw [hclosing] at h
      cases h
      rfl
  | none =>
      rw [hclosing] at h
      by_cases hcloser : c ∈ Bracket.closers
      · simp only [hcloser, if_true] at h ⊢
        cases owed with
        | nil => cases h
        | cons d rest =>
            by_cases hd : c = d
            · simp only [hd, if_true] at h
              cases h
              exact if_pos hd
            · simp only [hd, if_false] at h
              cases h
      · simp only [hcloser, if_false] at h ⊢
        cases h
        rfl

theorem foldlM_bracketStep_append (outer : List Char) :
    ∀ (cs owed next : List Char), cs.foldlM Bracket.step owed = some next →
      cs.foldlM Bracket.step (owed ++ outer) = some (next ++ outer) := by
  intro cs
  induction cs with
  | nil =>
      intro owed next h
      cases h
      rfl
  | cons c rest ih =>
      intro owed next h
      rw [List.foldlM_cons] at h ⊢
      obtain ⟨middle, hstep, hrest⟩ := Option.bind_eq_some_iff.1 h
      rw [bracketStep_append hstep outer]
      exact ih middle next hrest

/-- In code, a character that begins no literal and no comment counts only
as a bracket. -/
theorem step_code_of_not_starter {c : Char} (h : c ∉ starters)
    (owed : List Char) :
    step ⟨.code, owed⟩ c = (Bracket.step owed c).map (⟨.code, ·⟩) := by
  have hne : ∀ d ∈ starters, c ≠ d := fun d hd heq => h (heq ▸ hd)
  have hother : c ∉ otherQuotes := fun hc => h (by
    have hsub : ∀ d ∈ otherQuotes, d ∈ starters := by decide
    exact hsub c hc)
  show codeStep owed c = _
  unfold codeStep
  rw [if_neg (hne '"' (by decide)), if_neg (hne '/' (by decide)),
    if_neg hother]

/-- A type text is inert. -/
theorem inert_of_type (h : IsTypeText s) : Inert s := by
  intro owed
  have key : ∀ (cs : List Char), (∀ c ∈ cs, c ∉ starters) →
      ∀ owed next, cs.foldlM Bracket.step owed = some next →
        cs.foldlM step ⟨.code, owed⟩ = some ⟨.code, next⟩ := by
    intro cs
    induction cs with
    | nil =>
        intro _ owed next hfold
        cases hfold
        rfl
    | cons c rest ih =>
        intro hcs owed next hfold
        rw [List.foldlM_cons] at hfold ⊢
        obtain ⟨middle, hstep, hrest⟩ := Option.bind_eq_some_iff.1 hfold
        rw [step_code_of_not_starter (hcs c (List.mem_cons_self ..)), hstep]
        exact ih (fun d hd => hcs d (List.mem_cons_of_mem _ hd)) middle next
          hrest
  exact key s.toList h.noStarter owed owed
    (foldlM_bracketStep_append owed s.toList [] [] h.nested)

-- ================================================== words and literals

/-- The marks that the scanner looks at in code. -/
def codeMarks : List Char := "\"'`/()[]".toList ++ ['{', '}']

/-- A text without such a mark is inert. -/
theorem inert_of_no_mark (h : AllChars (· ∉ codeMarks) s) : Inert s := by
  refine fun owed => reads_of_stays fun c hc => ?_
  have hsub : ∀ d ∈ starters, d ∈ codeMarks := by decide
  have hne : ∀ d ∈ codeMarks, c ≠ d := fun d hd heq => h c hc (heq ▸ hd)
  have hclosing : Bracket.closing? c = none := by
    unfold Bracket.closing?
    split
    · exact absurd rfl (hne '(' (by decide))
    · exact absurd rfl (hne '[' (by decide))
    · exact absurd rfl (hne '{' (by decide))
    · rfl
  have hcloser : c ∉ Bracket.closers := fun hmem => h c hc (by
    have hclosers : ∀ d ∈ Bracket.closers, d ∈ codeMarks := by decide
    exact hclosers c hmem)
  show step ⟨.code, owed⟩ c = some ⟨.code, owed⟩
  rw [step_code_of_not_starter fun hs => h c hc (hsub c hs)]
  unfold Bracket.step
  rw [hclosing]
  simp only [hcloser, if_false, Option.map_some]

/-- Characters of identifiers are no marks. -/
theorem not_mem_codeMarks {c : Char} (h : isIdentifierPart c = true) :
    c ∉ codeMarks := by
  intro hc
  have hall : ∀ d ∈ codeMarks, isIdentifierPart d = false := by decide
  rw [hall c hc] at h
  cases h

theorem inert_of_identifierParts (h : AllChars (isIdentifierPart · = true) s) :
    Inert s :=
  inert_of_no_mark (h.mono fun _ hc => not_mem_codeMarks hc)

/-- Inside a literal, a character that is no backslash, no quote and no
control character stays inside. -/
theorem step_literal {d : Char} (hbackslash : d ≠ '\\') (hquote : d ≠ '"')
    (hcontrol : isControl d = false) (owed : List Char) :
    step ⟨.literal, owed⟩ d = some ⟨.literal, owed⟩ := by
  have hbreak : d ∉ lineBreaks := by
    intro hd
    have hall : ∀ e ∈ lineBreaks, isControl e = true := by decide
    rw [hall d hd] at hcontrol
    cases hcontrol
  show (if d = '"' then _ else if d = '\\' then _ else _) = _
  rw [if_neg hquote, if_neg hbackslash, if_neg hbreak]

/-- Letters and digits stay inside a literal. -/
theorem reads_literal_of_alphanum (h : AllChars (Char.isAlphanum · = true) s)
    (owed : List Char) : Reads ⟨.literal, owed⟩ s ⟨.literal, owed⟩ := by
  refine reads_of_stays fun c hc => ?_
  have hc := h c hc
  refine step_literal ?_ ?_ (not_isControl_of_isAlphanum hc) owed
  · rintro rfl
    cases hc
  · rintro rfl
    cases hc

/-- What stands for one character in a literal does not leave it. -/
theorem reads_escapeChar (c : Char) (owed : List Char) :
    (escapeChar c).foldlM step ⟨.literal, owed⟩ = some ⟨.literal, owed⟩ := by
  rcases escapeChar_cases c with ⟨e, -, hc⟩ | hc | ⟨hc, hb, hq, hcontrol⟩
  · rw [hc]
    rfl
  · have hdigits : AllChars (Char.isAlphanum · = true)
        (String.ofList (hexFour c.toNat)) := fun d hd => by
      rw [String.toList_ofList] at hd
      exact isAlphanum_of_mem_hexFour hd
    have hread := reads_literal_of_alphanum hdigits owed
    unfold Reads at hread
    rw [String.toList_ofList] at hread
    rw [hc]
    exact hread
  · rw [hc, List.foldlM_cons, step_literal hb hq hcontrol]
    rfl

/-- A literal is entered, read and left. -/
theorem inert_literal (s : String) : Inert (literal s) := by
  intro owed
  have hinside : Reads ⟨.literal, owed⟩ (escape s) ⟨.literal, owed⟩ := by
    unfold Reads escape
    rw [String.toList_ofList]
    induction s.toList with
    | nil => rfl
    | cons c rest ih =>
        rw [List.flatMap_cons, List.foldlM_append, reads_escapeChar]
        exact ih
  have hopen : Reads ⟨.code, owed⟩ "\"" ⟨.literal, owed⟩ := rfl
  have hclose : Reads ⟨.literal, owed⟩ "\"" ⟨.code, owed⟩ := rfl
  exact (hopen.append hinside).append hclose

theorem inert_unionOfLiterals (names : List String) :
    Inert (unionOfLiterals names) := by
  unfold unionOfLiterals
  split
  · exact fun _ => rfl
  · have hbar : Inert " | " := fun _ => rfl
    exact hbar.intercalate_map fun name _ => inert_literal name

end Scanner

end ApiContract
