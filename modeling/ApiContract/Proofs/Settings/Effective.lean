/-
What settings come to. Three things can say what a setting is: an override,
the entry of its key in the settings file, and its default. `Settings.effective`
says for each setting by itself which of them does, from the entry of its own
key alone. Reading a file and putting overrides over it comes to just that,
unless an entry is not of the kind that its key wants: then the first such
entry in the file is the error, whatever the overrides would replace.

# One entry after another

A file is read by taking over its entries one after another, while what a
setting comes to is told by a look into the whole table. The two meet in
`Settings.overlay`, settings with a table laid over them. Taking over one entry
is laying a table of one entry over the settings (`set_eq`), and laying an
entry over them and then the others is laying all over them at once, because no
other entry has its key (`overlay_overlay`).
-/
import ApiContract.Proofs.Document.Toml.Keys
import ApiContract.Settings.Document

namespace ApiContract

-- ================================================== statement vocabulary

namespace Toml

/-- The truth value that stands there. -/
def Value.bool? : Value → Option Bool
  | .bool b => some b
  | _ => none

/-- The text that stands there. -/
def Value.text? : Value → Option String
  | .text s => some s
  | _ => none

/-- The list of texts that stands there. -/
def Value.texts? : Value → Option (List String)
  | .array items => items.mapM text?
  | _ => none

/-- What a table states under a key, seen as a value of some kind. -/
def stated {α : Type} (t : Table) (key : String) (view : Value → Option α) :
    Option α :=
  (t.lookup key).bind view

/-- The kinds of values that settings have. A text is named by what it is to
be. -/
inductive Kind where
  | truth
  | text (wanted : String)
  | texts
  deriving DecidableEq, Repr

/-- Why a value is not of a kind, if it is not. Of a list of texts, the first
item that is no text is the reason. -/
def Kind.misfit? : Kind → Value → Option Mismatch
  | truth, v =>
    if v.bool?.isSome then none else some (.wrongType v.found "a boolean")
  | text wanted, v =>
    if v.text?.isSome then none else some (.wrongType v.found wanted)
  | texts, .array items =>
    (items.find? (·.text?.isNone)).map fun v => .wrongType v.found "a string"
  | texts, v => some (.wrongType v.found "a sequence")

end Toml

namespace Settings

open Toml (stated)

/-- The keys that name a setting, and the kinds of their values. -/
def kinds : List (String × Toml.Kind) :=
  [("generate_decoders", .truth),
    ("io_ts_module", .text "a string"),
    ("requests_module", .text "a string"),
    ("definitions_path", .text "a string"),
    ("template", .text "path string"),
    ("format_command", .text "a string"),
    ("include_operations", .texts),
    ("exclude_operations", .texts)]

/-- What is wrong with an entry: the value of a known key is not of the kind
that the key wants. -/
def misfit? (e : String × Toml.Value) : Option Mismatch :=
  (kinds.lookup e.1).bind (·.misfit? e.2)

/-- What the settings come to that a table states, with overrides: for each
setting the override, else the entry of its key, else the default. -/
def effective (t : Toml.Table) (o : Overrides) : Settings where
  generateDecoders :=
    if o.noDecoders then false
    else (stated t "generate_decoders" (·.bool?)).getD true
  modules := {
    ioTs := (stated t "io_ts_module" (·.text?)).getD "io-ts"
    requests := (stated t "requests_module" (·.text?)).getD
      "@pagopa/ts-commons/lib/requests" }
  definitionsPath := (stated t "definitions_path" (·.text?)).getD "."
  templateFile :=
    match o.templateFile with
    | some path => some path
    | none => stated t "template" (·.text?)
  formatCommand :=
    match o.formatCommand with
    | some command => some command
    | none => stated t "format_command" (·.text?)
  selection := {
    included := (stated t "include_operations" (·.texts?)).getD []
    excluded := (stated t "exclude_operations" (·.texts?)).getD [] }

/-- Settings with what a table states laid over them. -/
def overlay (s : Settings) (t : Toml.Table) : Settings where
  generateDecoders :=
    (stated t "generate_decoders" (·.bool?)).getD s.generateDecoders
  modules := {
    ioTs := (stated t "io_ts_module" (·.text?)).getD s.modules.ioTs
    requests := (stated t "requests_module" (·.text?)).getD
      s.modules.requests }
  definitionsPath :=
    (stated t "definitions_path" (·.text?)).getD s.definitionsPath
  templateFile := (stated t "template" (·.text?)).or s.templateFile
  formatCommand := (stated t "format_command" (·.text?)).or s.formatCommand
  selection := {
    included :=
      (stated t "include_operations" (·.texts?)).getD s.selection.included
    excluded :=
      (stated t "exclude_operations" (·.texts?)).getD s.selection.excluded }

end Settings

/-- Overrides with others put over them. -/
def Overrides.followedBy (o o' : Overrides) : Overrides where
  noDecoders := o.noDecoders || o'.noDecoders
  formatCommand :=
    match o'.formatCommand with
    | some command => some command
    | none => o.formatCommand
  templateFile :=
    match o'.templateFile with
    | some path => some path
    | none => o.templateFile

-- ================================================================= values

namespace Toml

/-- What a reader makes of the values of a kind, and what it says of all
others. -/
def ReadsKind {α : Type} (kind : Kind) (view : Value → Option α)
    (read : Value → Except Mismatch α) : Prop :=
  ∀ v, (∃ a, kind.misfit? v = none ∧ view v = some a ∧ read v = .ok a)
    ∨ ∃ m, kind.misfit? v = some m ∧ read v = .error m

theorem readsKind_truth : ReadsKind .truth (·.bool?) readBool := by
  intro v
  cases v with
  | bool b => exact .inl ⟨b, rfl, rfl, rfl⟩
  | _ => exact .inr ⟨_, rfl, rfl⟩

theorem readsKind_text (wanted : String) :
    ReadsKind (.text wanted) (·.text?) (readText wanted) := by
  intro v
  cases v with
  | text s => exact .inl ⟨s, rfl, rfl, rfl⟩
  | _ => exact .inr ⟨_, rfl, rfl⟩

theorem readsKind_texts : ReadsKind .texts (·.texts?) readTexts := by
  intro v
  cases v with
  | array items =>
      show (∃ texts, (items.find? _).map _ = none ∧ items.mapM _ = some texts
        ∧ readTextItems items = _) ∨ ∃ m, (items.find? _).map _ = some m
        ∧ readTextItems items = _
      induction items with
      | nil => exact .inl ⟨[], rfl, rfl, rfl⟩
      | cons v items ih =>
          cases v with
          | text s =>
              rw [List.find?_cons_of_neg (by simp [Value.text?])]
              obtain ⟨texts, hfind, hview, hread⟩ | ⟨m, hfind, hread⟩ := ih
              · refine .inl ⟨s :: texts, hfind, ?_, ?_⟩
                · rw [List.mapM_cons, hview]
                  rfl
                · unfold readTextItems
                  rw [hread]
                  rfl
              · refine .inr ⟨m, hfind, ?_⟩
                unfold readTextItems
                rw [hread]
                rfl
          | _ => exact .inr ⟨_, rfl, rfl⟩
  | _ => exact .inr ⟨_, rfl, rfl⟩

-- ================================================================= tables

variable {α : Type} {view : Value → Option α}

@[simp] theorem stated_self (key : String) (v : Value) :
    stated [(key, v)] key view = view v := by
  unfold stated
  rw [List.lookup_cons, beq_self_eq_true]
  rfl

@[simp] theorem stated_other {key other : String} (h : key ≠ other)
    (v : Value) : stated [(other, v)] key view = none := by
  unfold stated
  rw [List.lookup_cons, beq_eq_false_iff_ne.2 h]
  rfl

/-- Under each key an entry states what the others do not, when none of them
has its key. -/
theorem stated_cons {e : String × Value} {rest : Table}
    (h : Distinct (e :: rest)) (key : String) :
    stated (e :: rest) key view
      = (stated rest key view).or (stated [e] key view) := by
  obtain ⟨other, v⟩ := e
  by_cases hkey : key = other
  · subst hkey
    have hrest : rest.lookup key = none :=
      lookup_eq_none_iff.2 (List.nodup_cons.1 h).1
    rw [stated_self]
    unfold stated
    rw [hrest, List.lookup_cons, beq_self_eq_true]
    rfl
  · rw [stated_other hkey, Option.or_none]
    unfold stated
    rw [List.lookup_cons, beq_eq_false_iff_ne.2 hkey]

end Toml

namespace Settings

open Toml (stated Distinct)

variable {s : Settings} {t : Toml.Table}

-- ================================================================ entries

/-- An entry of a known key that is read, or refused, as its kind wants. -/
theorem map_read_eq {α : Type} {kind : Toml.Kind}
    {view : Toml.Value → Option α} {read : Toml.Value → Except Mismatch α}
    (hread : Toml.ReadsKind kind view read) {key : String} {v : Toml.Value}
    {f : α → Settings} (hkind : kinds.lookup key = some kind)
    (hover : ∀ a, view v = some a → f a = s.overlay [(key, v)]) :
    (read v).map f
      = match misfit? (key, v) with
        | some m => .error m
        | none => .ok (s.overlay [(key, v)]) := by
  have hmisfit : misfit? (key, v) = kind.misfit? v := by
    unfold misfit?
    rw [hkind]
    rfl
  rw [hmisfit]
  obtain ⟨a, hfits, hview, hread⟩ | ⟨m, hmisfit, hread⟩ := hread v
  · rw [hfits, hread, ← hover a hview]
    rfl
  · rw [hmisfit, hread]
    rfl

/-- An entry is taken over unless it does not fit. -/
theorem set_eq (s : Settings) (e : String × Toml.Value) :
    s.set e.1 e.2
      = match misfit? e with
        | some m => .error m
        | none => .ok (s.overlay [e]) := by
  obtain ⟨key, v⟩ := e
  show s.set key v = _
  unfold set
  split
  · exact map_read_eq Toml.readsKind_truth rfl fun a h => by
      simp [overlay, h]
  · exact map_read_eq (Toml.readsKind_text _) rfl fun a h => by
      simp [overlay, h]
  · exact map_read_eq (Toml.readsKind_text _) rfl fun a h => by
      simp [overlay, h]
  · exact map_read_eq (Toml.readsKind_text _) rfl fun a h => by
      simp [overlay, h]
  · exact map_read_eq (Toml.readsKind_text _) rfl fun a h => by
      simp [overlay, h]
  · exact map_read_eq (Toml.readsKind_text _) rfl fun a h => by
      simp [overlay, h]
  · exact map_read_eq Toml.readsKind_texts rfl fun a h => by
      simp [overlay, h]
  · exact map_read_eq Toml.readsKind_texts rfl fun a h => by
      simp [overlay, h]
  next h₁ h₂ h₃ h₄ h₅ h₆ h₇ h₈ =>
    -- a key that names no setting
    have hkind : kinds.lookup key = none := by
      rw [Toml.lookup_eq_none_iff]
      simp only [kinds, List.map_cons, List.map_nil, List.mem_cons,
        List.not_mem_nil, or_false, not_or]
      exact ⟨h₁, h₂, h₃, h₄, h₅, h₆, h₇, h₈⟩
    have hover : s.overlay [(key, v)] = s := by
      simp [overlay, Ne.symm h₁, Ne.symm h₂, Ne.symm h₃, Ne.symm h₄, Ne.symm h₅,
        Ne.symm h₆, Ne.symm h₇, Ne.symm h₈]
    unfold misfit?
    rw [hkind, hover]
    rfl

-- ================================================================= tables

/-- A first entry and then the others, when none of them has its key. -/
theorem overlay_overlay {e : String × Toml.Value} (h : Distinct (e :: t)) :
    (s.overlay [e]).overlay t = s.overlay (e :: t) := by
  unfold overlay
  simp only [Toml.stated_cons h, Option.getD_or, Option.or_assoc]

/-- A table is taken over unless an entry does not fit; the first one that
does not is the error. -/
theorem setAll_eq (h : Distinct t) :
    s.setAll t
      = match t.findSome? misfit? with
        | some m => .error m
        | none => .ok (s.overlay t) := by
  induction t generalizing s with
  | nil => rfl
  | cons e rest ih =>
      show (s.set e.1 e.2).bind (·.setAll rest) = _
      rw [set_eq, List.findSome?_cons]
      cases misfit? e with
      | some m => rfl
      | none =>
          have hrest : Distinct rest := (List.nodup_cons.1 h).2
          show (s.overlay [e]).setAll rest = _
          rw [ih hrest, overlay_overlay h]

/-- The settings of a table, with overrides put over them. -/
theorem override_over (t : Toml.Table) (o : Overrides) :
    (overlay {} t).override o = effective t o := by
  obtain ⟨noDecoders, command, template⟩ := o
  unfold override overlay effective
  cases noDecoders <;> cases command <;> cases template <;> simp

/-- What a table comes to, with overrides: the first entry that does not fit is
the error, whatever they would replace. -/
theorem ofTable_override (h : Distinct t) (o : Overrides) :
    (ofTable t).map (·.override o)
      = match t.findSome? misfit? with
        | some m => .error m
        | none => .ok (effective t o) := by
  unfold ofTable
  rw [setAll_eq h]
  cases t.findSome? misfit? with
  | some m => rfl
  | none =>
      show Except.ok ((overlay {} t).override o) = _
      rw [override_over]

/-- What a text comes to is what its table comes to. -/
theorem ofText_override {text : String} (h : Toml.read? text = some t)
    (o : Overrides) :
    (ofText text).map (·.override o)
      = ((ofTable t).map (·.override o)).mapError .mismatch := by
  unfold ofText
  rw [h]
  dsimp only
  cases ofTable t with
  | error m => rfl
  | ok s => rfl

-- ============================================================= round trip

theorem texts?_map_text (texts : List String) :
    (Toml.Value.array (texts.map .text)).texts? = some texts := by
  show (texts.map Toml.Value.text).mapM Toml.Value.text? = some texts
  induction texts with
  | nil => rfl
  | cons s texts ih =>
      rw [List.map_cons, List.mapM_cons, ih]
      rfl

theorem misfit?_map_text (texts : List String) :
    Toml.Kind.texts.misfit? (.array (texts.map .text)) = none := by
  unfold Toml.Kind.misfit?
  rw [Option.map_eq_none_iff, List.find?_eq_none]
  intro v hv
  obtain ⟨s, -, rfl⟩ := List.mem_map.1 hv
  exact Bool.false_ne_true

theorem distinct_toTable (s : Settings) : Distinct s.toTable := by
  unfold Distinct toTable
  cases s.templateFile <;> cases s.formatCommand <;> simp

theorem misfit?_toTable {s : Settings} {e : String × Toml.Value}
    (h : e ∈ s.toTable) : misfit? e = none := by
  unfold toTable at h
  simp only [List.mem_append, List.mem_cons, List.not_mem_nil, or_false,
    Option.mem_toList, Option.map_eq_some_iff, or_assoc] at h
  rcases h with rfl | rfl | rfl | rfl | ⟨p, -, rfl⟩ | ⟨c, -, rfl⟩ | rfl | rfl
  · rfl
  · rfl
  · rfl
  · rfl
  · rfl
  · rfl
  · exact misfit?_map_text s.selection.included
  · exact misfit?_map_text s.selection.excluded

theorem overlay_toTable (s : Settings) : overlay {} s.toTable = s := by
  obtain ⟨decoders, ⟨ioTs, requests⟩, definitions, template, command,
    ⟨included, excluded⟩⟩ := s
  cases template <;> cases command <;>
    simp [overlay, stated, toTable, List.lookup_cons, texts?_map_text,
      Toml.Value.bool?, Toml.Value.text?]

/-- Settings are read back from the entries that they are written as. -/
theorem ofTable_toTable (s : Settings) : ofTable s.toTable = .ok s := by
  have hfits : s.toTable.findSome? misfit? = none :=
    List.findSome?_eq_none_iff.2 fun e he => misfit?_toTable he
  unfold ofTable
  rw [setAll_eq (distinct_toTable s), hfits, overlay_toTable]

-- ============================================================== overrides

/-- Overrides one after the other are one set of overrides. -/
theorem override_override (s : Settings) (o o' : Overrides) :
    (s.override o).override o' = s.override (o.followedBy o') := by
  obtain ⟨noDecoders, command, template⟩ := o
  obtain ⟨noDecoders', command', template'⟩ := o'
  unfold override Overrides.followedBy
  cases command' <;> cases template' <;> simp [Bool.and_assoc]

-- ============================================================= the result

/-- Settings are effective setting by setting. What a table states is an error
when an entry does not fit its key, overridden or not, and else each setting
is what its override says, or its entry, or its default; a file comes to what
its table comes to. Settings that are written are read back, with no entry for
what is not set, and overrides one after the other are one set of
overrides. -/
theorem effective_settings :
    (∀ t : Toml.Table, Distinct t → ∀ o : Overrides,
        (ofTable t).map (·.override o)
          = match t.findSome? misfit? with
            | some m => .error m
            | none => .ok (effective t o))
      ∧ (∀ (text : String) (t : Toml.Table), Toml.read? text = some t →
        Distinct t ∧ ∀ o : Overrides, (ofText text).map (·.override o)
          = ((ofTable t).map (·.override o)).mapError .mismatch)
      ∧ (∀ s : Settings, ofTable s.toTable = .ok s
        ∧ ("template" ∈ s.toTable.map Prod.fst ↔ s.templateFile.isSome)
        ∧ ("format_command" ∈ s.toTable.map Prod.fst
          ↔ s.formatCommand.isSome))
      ∧ ∀ (s : Settings) (o o' : Overrides),
        (s.override o).override o' = s.override (o.followedBy o') := by
  refine ⟨fun t h => ofTable_override h, ?_, ?_, override_override⟩
  · intro text t h
    exact ⟨Toml.distinct_read? h, ofText_override h⟩
  · intro s
    refine ⟨ofTable_toTable s, ?_, ?_⟩
    · unfold toTable
      cases s.templateFile <;> cases s.formatCommand <;> simp
    · unfold toTable
      cases s.templateFile <;> cases s.formatCommand <;> simp

/-- A file that states three settings and a key that names none. -/
def partialText : String :=
  "retries = 3\ntemplate = \"a.tera\"\nexclude_operations = [\"getLegacy\"]\n"
    ++ "format_command = \"prettier\"\n"

/-- A file that states one setting, and another with a value of the wrong
kind. -/
def misfitText : String :=
  "template = \"a.tera\"\ngenerate_decoders = \"yes\"\n"

/-- Overrides replace some of what the first file states, and do not save the
second one, though what does not fit there is overridden. -/
theorem effective_partial :
    (ofText partialText).map (·.override ⟨true, some "cat", none⟩)
        = .ok {
          generateDecoders := false
          formatCommand := some "cat"
          templateFile := some "a.tera"
          selection := ⟨[], ["getLegacy"]⟩ }
      ∧ (ofText misfitText).map (·.override ⟨true, none, none⟩)
        = .error (.mismatch (.wrongType (.text "yes") "a boolean")) := by
  obtain ⟨htable, hfile, -⟩ := effective_settings
  constructor
  · have hread : (Toml.read? partialText).any fun t =>
        t.findSome? misfit? = none
          ∧ effective t ⟨true, some "cat", none⟩ = {
            generateDecoders := false
            formatCommand := some "cat"
            templateFile := some "a.tera"
            selection := ⟨[], ["getLegacy"]⟩ } := by decide +kernel
    obtain ⟨t, ht, hstated⟩ := (Option.any_eq_true _ _).1 hread
    obtain ⟨hfits, heffective⟩ := of_decide_eq_true hstated
    obtain ⟨hdistinct, hfile⟩ := hfile partialText t ht
    rw [hfile, htable t hdistinct, hfits, ← heffective]
    rfl
  · have hread : (Toml.read? misfitText).any fun t =>
        t.findSome? misfit? = some (.wrongType (.text "yes") "a boolean") := by
      decide +kernel
    obtain ⟨t, ht, hmisfit⟩ := (Option.any_eq_true _ _).1 hread
    obtain ⟨hdistinct, hfile⟩ := hfile misfitText t ht
    rw [hfile, htable t hdistinct, of_decide_eq_true hmisfit]
    rfl

end Settings

end ApiContract
