/-
What the generated function returns: an expression that reads back to one
tree, and the decoder that this tree stands for.

# Reading

`readTree` reads nested calls with two arguments, a name at every leaf. Its
first argument bounds how deep calls may nest; the length of the text is
always enough. Reading and writing are inverse (`read?_eq_some_iff`): what is
written from words is read back, and what is read was written so. Writing
first needs the text behind a name to end it, which a comma and a closing
bracket do.

# Meaning

A decoder either recognises a response or does not, and a composition asks
its first decoder first (`run`). By induction on the tree that is the first
match among its names, from left to right, however the calls are nested.
-/
import Mathlib.Data.List.Basic
import Mathlib.Data.List.TakeWhile
import ApiContract.Proofs.DecoderBlock.Outline
import ApiContract.Proofs.Identifier
import ApiContract.Proofs.Operation.Code

namespace ApiContract

open Text

namespace Composition

-- ============================================================== reading

/-- The beginning of a call. -/
def callText : List Char := "r.composeResponseDecoders(".toList

/-- Reads a tree: a call of two trees, or a name. Yields what follows, too. -/
def readTree : Nat → List Char → Option (Composition × List Char)
  | 0, _ => none
  | depth + 1, cs =>
    match callText.isPrefixOf? cs with
    | some inside => do
      let (first, rest) ← readTree depth inside
      let rest ← [',', ' '].isPrefixOf? rest
      let (second, rest) ← readTree depth rest
      let rest ← [')'].isPrefixOf? rest
      return (compose first second, rest)
    | none =>
      if (cs.takeWhile isIdentifierPart).isEmpty then none
      else some (decoder (String.ofList (cs.takeWhile isIdentifierPart)),
        cs.dropWhile isIdentifierPart)

/-- Reads a text that is one tree from end to end. -/
def read? (s : String) : Option Composition :=
  match readTree s.toList.length s.toList with
  | some (c, []) => some c
  | _ => none

/-- The calls are nested in the first argument only. -/
def IsLeftNested : Composition → Prop
  | decoder _ => True
  | compose first second =>
    first.IsLeftNested ∧ ∃ name, second = decoder name

/-- How deep calls nest, a name counting as one. -/
def depth : Composition → Nat
  | decoder _ => 1
  | compose first second => 1 + max first.depth second.depth

/-- A name that can be read: some characters of identifiers. -/
def IsWord (name : String) : Prop :=
  name ≠ "" ∧ AllChars (isIdentifierPart · = true) name

/-- Behind this text no name goes on. -/
def EndsName (rest : List Char) : Prop :=
  ∀ c ∈ rest.head?, c = ',' ∨ c = ')'

-- ============================================== what is written is read

/-- A name is no call: the dot of a call is neither in a name nor behind
one. -/
theorem not_call_of_name {name rest : List Char}
    (hname : ∀ c ∈ name, isIdentifierPart c = true) (hne : name ≠ [])
    (hrest : EndsName rest) : callText.isPrefixOf? (name ++ rest) = none := by
  cases hcall : callText.isPrefixOf? (name ++ rest) with
  | none => rfl
  | some inside =>
      exfalso
      rw [List.isPrefixOf?_eq_some_iff_append_eq] at hcall
      cases name with
      | nil => exact hne rfl
      | cons c more =>
          have hsecond : ('.' : Char) ∈ (more ++ rest).head? := by
            have htail := congrArg (fun cs : List Char => cs.tail.head?) hcall
            exact htail.symm
          cases more with
          | nil =>
              rcases hrest '.' hsecond with h | h
              · cases h
              · cases h
          | cons d more =>
              have hd : d = '.' := Option.some.inj hsecond
              have hpart := hname d (by simp)
              rw [hd] at hpart
              cases hpart

/-- Taking the characters of a name stops where the name ends. -/
theorem takeWhile_name {name rest : List Char}
    (hname : ∀ c ∈ name, isIdentifierPart c = true) (hrest : EndsName rest) :
    (name ++ rest).takeWhile isIdentifierPart = name
      ∧ (name ++ rest).dropWhile isIdentifierPart = rest := by
  rw [List.takeWhile_append_of_pos hname, List.dropWhile_append_of_pos hname]
  cases rest with
  | nil => exact ⟨List.append_nil name, rfl⟩
  | cons c more =>
      have hc : isIdentifierPart c = false := by
        rcases hrest c rfl with rfl | rfl <;> rfl
      rw [List.takeWhile_cons_of_neg (by rw [hc]; decide),
        List.dropWhile_cons_of_neg (by rw [hc]; decide)]
      exact ⟨List.append_nil name, rfl⟩

theorem readTree_text {c : Composition} :
    (∀ name ∈ c.names, IsWord name) → ∀ (bound : Nat) (rest : List Char),
      c.depth ≤ bound → EndsName rest →
        readTree bound (c.text.toList ++ rest) = some (c, rest) := by
  induction c with
  | decoder name =>
      intro hnames bound rest hbound hrest
      obtain ⟨hne, hname⟩ := hnames name (List.mem_singleton.2 rfl)
      have hlist : name.toList ≠ [] := by
        rw [ne_eq, String.toList_eq_nil_iff]
        exact hne
      cases bound with
      | zero => cases hbound
      | succ bound =>
          obtain ⟨htake, hdrop⟩ := takeWhile_name hname hrest
          show readTree (bound + 1) (name.toList ++ rest) = _
          unfold readTree
          rw [not_call_of_name hname hlist hrest, htake, hdrop,
            String.ofList_toList]
          exact if_neg (by simpa using hlist)
  | compose first second ihFirst ihSecond =>
      intro hnames bound rest hbound hrest
      cases bound with
      | zero =>
          unfold depth at hbound
          omega
      | succ bound =>
          unfold depth at hbound
          have hfirst := ihFirst
            (fun name h => hnames name (List.mem_append_left _ h)) bound
            (", ".toList ++ (second.text.toList ++ (")".toList ++ rest)))
            (by omega) (fun c hc => Or.inl (Option.some.inj hc).symm)
          have hsecond := ihSecond
            (fun name h => hnames name (List.mem_append_right _ h)) bound
            (")".toList ++ rest) (by omega)
            (fun c hc => Or.inr (Option.some.inj hc).symm)
          have hlist : (compose first second).text.toList ++ rest
              = callText ++ (first.text.toList ++ (", ".toList
                ++ (second.text.toList ++ (")".toList ++ rest)))) := by
            show ("r.composeResponseDecoders(" ++ first.text ++ ", "
              ++ second.text ++ ")").toList ++ rest = _
            simp only [String.toList_append, List.append_assoc]
            rfl
          have hcall : callText.isPrefixOf? ((compose first second).text.toList
              ++ rest) = some (first.text.toList ++ (", ".toList
                ++ (second.text.toList ++ (")".toList ++ rest)))) := by
            rw [List.isPrefixOf?_eq_some_iff_append_eq]
            exact hlist.symm
          unfold readTree
          rw [hcall]
          show (readTree bound _ >>= _) = _
          rw [hfirst]
          show (readTree bound (second.text.toList ++ (")".toList ++ rest))
            >>= _) = _
          rw [hsecond]
          rfl

/-- The length of the text bounds how deep its calls nest. -/
theorem depth_le_length {c : Composition}
    (hnames : ∀ name ∈ c.names, IsWord name) :
    c.depth ≤ c.text.toList.length := by
  induction c with
  | decoder name =>
      obtain ⟨hne, -⟩ := hnames name (List.mem_singleton.2 rfl)
      show 1 ≤ name.toList.length
      rw [Nat.one_le_iff_ne_zero, ne_eq, List.length_eq_zero_iff,
        String.toList_eq_nil_iff]
      exact hne
  | compose first second ihFirst ihSecond =>
      have hfirst := ihFirst fun name h =>
        hnames name (List.mem_append_left _ h)
      have hsecond := ihSecond fun name h =>
        hnames name (List.mem_append_right _ h)
      show 1 + max first.depth second.depth
        ≤ ("r.composeResponseDecoders(" ++ first.text ++ ", " ++ second.text
          ++ ")").toList.length
      simp only [String.toList_append, List.length_append]
      have hclose : (")" : String).toList.length = 1 := rfl
      omega

-- ============================================== what is read was written

theorem readTree_sound : ∀ (bound : Nat) (cs : List Char) (c : Composition)
    (rest : List Char), readTree bound cs = some (c, rest) →
      cs = c.text.toList ++ rest ∧ ∀ name ∈ c.names, IsWord name := by
  intro bound
  induction bound with
  | zero =>
      intro cs c rest h
      cases h
  | succ bound ih =>
      intro cs c rest h
      unfold readTree at h
      cases hcall : callText.isPrefixOf? cs with
      | some inside =>
          simp only [hcall, Option.bind_eq_bind, Option.bind_eq_some_iff,
            Prod.exists] at h
          obtain ⟨first, rest₁, hfirst, rest₂, hcomma, second, rest₃, hsecond,
            rest₄, hclose, h⟩ := h
          rw [List.isPrefixOf?_eq_some_iff_append_eq] at hcall hcomma hclose
          obtain ⟨htext₁, hnames₁⟩ := ih _ _ _ hfirst
          obtain ⟨htext₂, hnames₂⟩ := ih _ _ _ hsecond
          cases h
          constructor
          · show _ = ("r.composeResponseDecoders(" ++ first.text ++ ", "
              ++ second.text ++ ")").toList ++ rest
            rw [← hcall, htext₁, ← hcomma, htext₂, ← hclose]
            simp only [String.toList_append, List.append_assoc]
            rfl
          · intro name hname
            rcases List.mem_append.1 hname with hname | hname
            · exact hnames₁ name hname
            · exact hnames₂ name hname
      | none =>
          simp only [hcall] at h
          split at h
          case isTrue => cases h
          case isFalse hne =>
            cases h
            constructor
            · show cs = (String.ofList _).toList ++ _
              rw [String.toList_ofList, List.takeWhile_append_dropWhile]
            · intro name hname
              rw [List.mem_singleton.1 hname]
              refine ⟨fun hempty => hne ?_, fun d hd => ?_⟩
              · rw [List.isEmpty_iff, ← String.ofList_eq_empty_iff]
                exact hempty
              · rw [String.toList_ofList] at hd
                exact List.mem_takeWhile_imp hd

/-- A text is read as a tree exactly when it is the tree's text and the names
are words. -/
theorem read?_eq_some_iff {s : String} {c : Composition} :
    read? s = some c ↔ s = c.text ∧ ∀ name ∈ c.names, IsWord name := by
  unfold read?
  constructor
  · intro h
    split at h
    case h_1 c' hread =>
      cases h
      obtain ⟨htext, hnames⟩ := readTree_sound _ _ _ _ hread
      rw [List.append_nil] at htext
      exact ⟨String.toList_inj.1 htext, hnames⟩
    case h_2 => cases h
  · rintro ⟨rfl, hnames⟩
    have hread := readTree_text hnames c.text.toList.length []
      (depth_le_length hnames) (fun d hd => by cases hd)
    rw [List.append_nil] at hread
    rw [hread]

example : read? "r.composeResponseDecoders(d200, d404)"
    = some (.compose (.decoder "d200") (.decoder "d404")) := by
  decide +kernel

-- ========================================================= left nesting

/-- Composing from the left nests in the first argument only. -/
theorem isLeftNested_ofNames (first : String) (others : List String) :
    (ofNames first others).IsLeftNested := by
  have key : ∀ (names : List String) (c : Composition), c.IsLeftNested →
      (names.foldl (fun c name => compose c (decoder name))
        c).IsLeftNested := by
    intro names
    induction names with
    | nil => intro c hc; exact hc
    | cons name rest ih =>
        intro c hc
        rw [List.foldl_cons]
        exact ih _ ⟨hc, name, rfl⟩
  exact key others (decoder first) trivial

-- ============================================================== meaning

section Meaning

variable {ρ α : Type} (decoders : String → ρ → Option α)

/-- What a tree decodes when names stand for partial decoders: a composition
is its first decoder where that recognises the response, else its second. -/
def run : Composition → ρ → Option α
  | decoder name, x => decoders name x
  | compose first second, x =>
    match run first x with
    | some y => some y
    | none => run second x

/-- A tree decodes as the first of its names that recognises the response. -/
theorem run_eq_findSome? (c : Composition) (x : ρ) :
    c.run decoders x = c.names.findSome? (decoders · x) := by
  induction c with
  | decoder name =>
      show decoders name x = [name].findSome? (decoders · x)
      rw [List.findSome?_singleton]
  | compose first second ihFirst ihSecond =>
      show (match first.run decoders x with
        | some y => some y
        | none => second.run decoders x)
          = (first.names ++ second.names).findSome? (decoders · x)
      rw [List.findSome?_append, ← ihFirst, ← ihSecond]
      cases first.run decoders x with
      | some y => rfl
      | none => rfl

end Meaning

/-- The tree stands for the first match among the decoders of the responses,
whatever the decoders are. -/
structure IsFirstMatch (c : Composition) (rs : List Response) : Prop where
  leftNested : c.IsLeftNested
  /-- One leaf per response, in order. -/
  names : c.names = rs.map fun r => "d" ++ r.status
  /-- The first response whose decoder recognises `x` decodes it. -/
  run_eq : ∀ {ρ α : Type} (decoders : String → ρ → Option α) (x : ρ),
    c.run decoders x = rs.findSome? fun r => decoders ("d" ++ r.status) x
  /-- There is no match exactly when no decoder recognises `x`. -/
  run_eq_none : ∀ {ρ α : Type} (decoders : String → ρ → Option α) (x : ρ),
    c.run decoders x = none ↔ ∀ r ∈ rs, decoders ("d" ++ r.status) x = none
  /-- When every decoder recognises its own status only, a response is
  decoded by the decoder of its status. -/
  run_of_own_status : ∀ {ρ α : Type} (decoders : String → ρ → Option α)
    (statusOf : ρ → String),
    (∀ r ∈ rs, ∀ y, decoders ("d" ++ r.status) y ≠ none →
      statusOf y = r.status) →
    ∀ r ∈ rs, ∀ x, statusOf x = r.status →
      c.run decoders x = decoders ("d" ++ r.status) x

/-- Where all items that have a result have the same, it is found. -/
theorem findSome?_eq_of_agree {α β : Type} {f : α → Option β} {l : List α}
    {a : α} (ha : a ∈ l) (hagree : ∀ b ∈ l, f b ≠ none → f b = f a) :
    l.findSome? f = f a := by
  cases hfind : l.findSome? f with
  | none => exact (List.findSome?_eq_none_iff.1 hfind a ha).symm
  | some y =>
      obtain ⟨b, hb, hy⟩ := List.exists_of_findSome?_eq_some hfind
      rw [← hy]
      exact hagree b hb (by rw [hy]; exact Option.some_ne_none y)

theorem isFirstMatch_of_names {c : Composition} {rs : List Response}
    (hnested : c.IsLeftNested)
    (hnames : c.names = rs.map Response.decoderName) :
    c.IsFirstMatch rs := by
  have hrun : ∀ {ρ α : Type} (decoders : String → ρ → Option α) (x : ρ),
      c.run decoders x
        = rs.findSome? fun r => decoders ("d" ++ r.status) x := by
    intro ρ α decoders x
    rw [run_eq_findSome?, hnames, List.findSome?_map]
    rfl
  refine ⟨hnested, hnames, hrun, ?_, ?_⟩
  · intro ρ α decoders x
    rw [hrun, List.findSome?_eq_none_iff]
  · intro ρ α decoders statusOf hown r hr x hstatus
    rw [hrun]
    -- a decoder that recognises `x` has the status of `x`, so its name too
    refine findSome?_eq_of_agree hr fun r' hr' hmatch => ?_
    rw [← hown r' hr' x hmatch, hstatus]

end Composition

-- ============================================================= function

namespace DecoderBlock

/-- A tree of words stands in one line. -/
theorem oneLine_composition {c : Composition}
    (hnames : ∀ name ∈ c.names, Composition.IsWord name) :
    AllChars (· ≠ '\n') c.text := by
  induction c with
  | decoder name =>
      obtain ⟨-, hname⟩ := hnames name (List.mem_singleton.2 rfl)
      exact AllChars.ne hname (by decide)
  | compose first second ihFirst ihSecond =>
      have hfirst := ihFirst fun name h =>
        hnames name (List.mem_append_left _ h)
      have hsecond := ihSecond fun name h =>
        hnames name (List.mem_append_right _ h)
      have hopen : AllChars (· ≠ '\n') "r.composeResponseDecoders(" := by decide
      exact (((hopen.append hfirst).append (by decide)).append hsecond).append
        (by decide)

/-- The name of a decoder is a word when its status has only letters and
digits. -/
theorem isWord_decoderName {r : Response}
    (hstatus : AllChars (Char.isAlphanum · = true) r.status) :
    Composition.IsWord r.decoderName := by
  have hstatus : AllChars (isIdentifierPart · = true) r.status :=
    hstatus.mono fun c hc => (isIdentifierPart_iff c).2 (Or.inl hc)
  have hletter : AllChars (isIdentifierPart · = true) "d" := by decide
  refine ⟨fun h => ?_, hletter.append hstatus⟩
  have hlist := congrArg String.toList h
  unfold Response.decoderName at hlist
  rw [String.toList_append] at hlist
  cases hlist

/-- The function of a block with a success response and with statuses of
letters and digits ends, behind one binding per response in order, in one line
that returns an expression. The expression reads back to a tree that is nested
from the left and stands for the first match among the decoders of the
responses. -/
theorem returned_first_match (id : String) (rs : List Response)
    (success : ∃ r ∈ rs, r.isSuccess = true)
    (statuses : ∀ r ∈ rs, AllChars (Char.isAlphanum · = true) r.status) :
    ∃ b before expression c, ofResponses? id rs = some b
      ∧ b.decoderFunction = b.signature ++ braced (before ++ b.bindings
        ++ "\n\n  return " ++ expression ++ ";\n")
      ∧ b.bindings = "\n".intercalate (rs.map fun r =>
        "  const " ++ ("d" ++ r.status) ++ r.bound.text ++ ";")
      ∧ AllChars (· ≠ '\n') expression
      ∧ Composition.read? expression = some c
      ∧ c.IsFirstMatch rs := by
  obtain ⟨s, hs⟩ := Option.isSome_iff_exists.1 (List.find?_isSome.2 success)
  let b : DecoderBlock := ⟨DecoderNames.ofId id, rs, s⟩
  have hblock : ofResponses? id rs = some b := ofResponses?_of_find? hs
  have hne : b.responses ≠ [] :=
    List.ne_nil_of_mem (List.mem_of_find?_eq_some hs)
  obtain ⟨first, others, hc, hothers⟩ := composition?_of_ne_nil hne
  let c : Composition := .ofNames first others
  have hc : b.composition? = some c := hc
  have hnames : c.names = rs.map Response.decoderName := by
    rw [names_ofNames, hothers]
  have hwords : ∀ name ∈ c.names, Composition.IsWord name := by
    rw [hnames]
    intro name hname
    obtain ⟨r, hr, rfl⟩ := List.mem_map.1 hname
    exact isWord_decoderName (statuses r hr)
  have hfunction : b.decoderFunction
      = b.signature ++ braced (("\n" ++ b.overrideTest ++ b.mergedTypes)
        ++ b.bindings ++ "\n\n  return " ++ c.text ++ ";\n") := by
    have hend : ";" ++ "\n" = ";\n" := by decide
    unfold decoderFunction returned
    rw [hc, ← hend]
    simp only [String.append_assoc]
  have hbindings : b.bindings = "\n".intercalate (rs.map fun r =>
      "  const " ++ ("d" ++ r.status) ++ r.bound.text ++ ";") := by
    unfold bindings
    rw [List.map_congr_left fun r hr =>
      binding_eq ((statuses r hr).ne (by decide))]
    rfl
  exact ⟨b, _, c.text, c, hblock, hfunction, hbindings,
    oneLine_composition hwords,
    Composition.read?_eq_some_iff.2 ⟨rfl, hwords⟩,
    Composition.isFirstMatch_of_names
      (Composition.isLeftNested_ofNames first others) hnames⟩

theorem tangled_returned_first_match :
    ∃ b before expression c,
      ofResponses? "listFiles" Operation.tangled.responses = some b
        ∧ b.decoderFunction = b.signature ++ braced (before ++ b.bindings
          ++ "\n\n  return " ++ expression ++ ";\n")
        ∧ b.bindings = "\n".intercalate (Operation.tangled.responses.map
          fun r => "  const " ++ ("d" ++ r.status) ++ r.bound.text ++ ";")
        ∧ AllChars (· ≠ '\n') expression
        ∧ Composition.read? expression = some c
        ∧ c.IsFirstMatch Operation.tangled.responses :=
  returned_first_match "listFiles" Operation.tangled.responses (by decide)
    (by decide)

end DecoderBlock

end ApiContract
