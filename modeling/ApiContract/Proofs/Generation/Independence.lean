/-
What generating does not depend on. The module is made from the operations
that are selected, and of those it does not show where a parameter travels,
which header carries it and what media types there are. So two contexts whose
selections are alike up to that have one outcome, whatever the entries are
that were dropped, and wherever absent entries stand.

# From operations to runs

Two operations are alike when they agree in everything else, their parameters
one by one (`Operation.Alike`). The rules and the code look at nothing that
alike operations differ in (`Operation.Alike.code_eq`), so lists of alike
operations make one operation set (`OperationSet.ofEntries_congr`). A draft
asks of its context the selected set, the paths and the options, and the
formatter is given the draft only; from there on two runs are one.

The notices are no part of an outcome. That an id to include is not in the
input is said of the entries before any is dropped, so it does depend on
them.
-/
import Mathlib.Data.List.Forall2
import ApiContract.Proofs.Generation.Basic

namespace ApiContract

-- ================================================== statement vocabulary

/-- The parameters differ in nothing but where they travel and by which
header. -/
structure Parameter.Alike (p q : Parameter) : Prop where
  name : p.name = q.name
  typeText : p.typeText = q.typeText

/-- The operations differ in nothing but media types and what their
parameters may differ in. -/
structure Operation.Alike (a b : Operation) : Prop where
  method : a.method = b.method
  id : a.id = b.id
  parameters : List.Forall₂ Parameter.Alike a.parameters b.parameters
  responses : a.responses = b.responses
  headers : a.headers = b.headers
  importedTypes : a.importedTypes = b.importedTypes
  path : a.path = b.path

namespace GenerationContext

/-- The contexts agree in options and paths, and the operations that are
there and that the one and the other selects are alike, in order. -/
structure SelectsAlike (c c' : GenerationContext) : Prop where
  assembly : c.assembly = c'.assembly
  modules : c.modules = c'.modules
  outputPath : c.outputPath = c'.outputPath
  selected : List.Forall₂ Operation.Alike c.selected c'.selected

/-- What generating comes to on a tree: the tree after it, and what was
generated or the error. -/
def outcome (c : GenerationContext) (render : Renderer) (format : Formatter)
    (fs : FileSystem) : FileSystem × Except GenerationError Generated :=
  let ran := (c.generate render format).run fs
  (ran.1, ran.2.result)

/-- The context with other entries. -/
def withEntries (c : GenerationContext) (entries : List (Option Operation)) :
    GenerationContext :=
  { c with entries }

end GenerationContext

-- ====================================================== alike operations

/-- A function that does not tell related items apart maps related lists to
one. -/
theorem map_eq_of_forall₂ {α β : Type} {R : α → α → Prop} {as bs : List α}
    (h : List.Forall₂ R as bs) {f : α → β}
    (hf : ∀ a b, R a b → f a = f b) : as.map f = bs.map f := by
  induction h with
  | nil => rfl
  | cons hab _ ih => rw [List.map_cons, List.map_cons, hf _ _ hab, ih]

namespace Parameter.Alike

variable {p q : Parameter}

theorem refl (p : Parameter) : p.Alike p := ⟨rfl, rfl⟩

theorem propertyName_eq (h : p.Alike q) : p.propertyName = q.propertyName := by
  unfold propertyName
  rw [h.name]

theorem property_eq (h : p.Alike q) : p.property = q.property := by
  unfold property isOptional
  rw [h.propertyName_eq, h.name, h.typeText]

end Parameter.Alike

namespace Operation.Alike

variable {a b : Operation}

theorem refl (a : Operation) : a.Alike a :=
  ⟨rfl, rfl, List.forall₂_same.2 fun p _ => .refl p, rfl, rfl, rfl, rfl⟩

/-- The rules say the same of alike operations. -/
theorem check_eq (h : a.Alike b) : a.check = b.check := by
  have hnames : a.parameters.map Parameter.propertyName
      = b.parameters.map Parameter.propertyName :=
    map_eq_of_forall₂ h.parameters fun _ _ h => h.propertyName_eq
  have hparameters : a.checkParameters = b.checkParameters := by
    have hany : ∀ ps : List Parameter, ps.any (·.propertyName.isEmpty)
        = (ps.map Parameter.propertyName).any String.isEmpty := by
      intro ps
      rw [List.any_map]
      rfl
    unfold checkParameters
    rw [hany, hany, hnames, h.id]
  unfold check checkResponses
  rw [h.id, h.responses, hparameters]

theorem codeText_eq (h : a.Alike b) (decoders : Bool) :
    a.codeText decoders = b.codeText decoders := by
  have hproperties : a.parameters.map Parameter.property
      = b.parameters.map Parameter.property :=
    map_eq_of_forall₂ h.parameters fun _ _ h => h.property_eq
  have hparameters : parametersType a.parameters
      = parametersType b.parameters := by
    have hempty : ∀ ps : List Parameter,
        ps.isEmpty = (ps.map Parameter.property).isEmpty :=
      fun ps => List.isEmpty_map.symm
    unfold parametersType
    rw [hempty, hempty, hproperties]
  have hrequest : a.requestTypeText = b.requestTypeText := by
    unfold requestTypeText heading headingPath requestType
    rw [h.id, h.path, h.method, hparameters, h.headers, h.responses]
  unfold codeText
  rw [hrequest, h.id, h.responses]

/-- Nor does the code tell alike operations apart. -/
theorem code_eq (h : a.Alike b) (decoders : Bool) :
    a.code decoders = b.code decoders := by
  unfold code
  rw [h.check_eq, h.codeText_eq]

theorem success?_eq (h : a.Alike b) : a.success? = b.success? := by
  unfold success?
  rw [h.responses]

end Operation.Alike

namespace OperationSet

theorem codes_congr {as bs : List Operation}
    (h : List.Forall₂ Operation.Alike as bs) (decoders : Bool) :
    codes decoders as = codes decoders bs := by
  induction h with
  | nil => rfl
  | cons hab _ ih =>
      unfold codes
      rw [hab.code_eq, ih]

/-- Lists of alike operations make one set, with one list of notices. -/
theorem ofEntries_congr {entries entries' : List (Option Operation)}
    (h : List.Forall₂ Operation.Alike (entries.filterMap id)
      (entries'.filterMap id)) (options : AssemblyOptions) :
    ofEntries entries options = ofEntries entries' options := by
  have himports : importedTypes (entries.filterMap id)
      = importedTypes (entries'.filterMap id) := by
    unfold importedTypes
    rw [List.flatMap_def, List.flatMap_def,
      map_eq_of_forall₂ h fun _ _ h => h.importedTypes]
  have hsuccesses : (entries.filterMap id).countP (·.success?.isSome)
      = (entries'.filterMap id).countP (·.success?.isSome) := by
    have hcount : ∀ ops : List Operation, ops.countP (·.success?.isSome)
        = (ops.map Operation.success?).countP Option.isSome := by
      intro ops
      rw [List.countP_map]
      rfl
    rw [hcount, hcount,
      map_eq_of_forall₂ h fun _ _ h => h.success?_eq]
  unfold ofEntries
  dsimp only
  rw [codes_congr h, himports, hsuccesses]

end OperationSet

-- ============================================================== contexts

namespace GenerationContext

variable {c c' : GenerationContext}

/-- Contexts that select alike have one draft or one error. -/
theorem SelectsAlike.draft_result (h : c.SelectsAlike c') (render : Renderer) :
    (c.draft render).result = (c'.draft render).result := by
  have hcheck : c.check = c'.check := by
    unfold check
    rw [h.outputPath, h.modules]
  have hbindings : c.bindings = c'.bindings := by
    funext code
    unfold bindings
    rw [h.modules]
  have hset : OperationSet.ofEntries (c.entries.filter c.selection.keeps)
        c.assembly
      = OperationSet.ofEntries (c'.entries.filter c'.selection.keeps)
        c'.assembly := by
    rw [h.assembly]
    refine OperationSet.ofEntries_congr ?_ _
    rw [Selection.filterMap_filter_keeps, Selection.filterMap_filter_keeps]
    exact h.selected
  have hok : ∀ {α β : Type} (a : α) (f : α → Except GenerationError β),
      (Except.ok a >>= f) = f a := fun _ _ => rfl
  unfold draft
  simp only [Logged.result_bind, Selection.apply_eq, hok, hset, hcheck,
    hbindings, h.outputPath]

/-- What is done with a draft: its artifacts are formatted. -/
def finish (format : Formatter) (draft : Logged GenerationError Generated) :
    Access (Logged GenerationError Generated) :=
  match draft.result with
  | .error e => return ⟨draft.notices, .error e⟩
  | .ok made => do
    let formatted ← formatAll format made.artifacts
    return ⟨draft.notices ++ formatted.notices,
      formatted.result.map ({ made with artifacts := · })⟩

theorem generate_eq (c : GenerationContext) (render : Renderer)
    (format : Formatter) :
    c.generate render format = finish format (c.draft render) :=
  rfl

/-- The notices of a draft come out of a run as they are, and change nothing
else of it. -/
theorem run_finish_congr {draft draft' : Logged GenerationError Generated}
    (h : draft.result = draft'.result) (format : Formatter)
    (fs : FileSystem) :
    ((finish format draft).run fs).1 = ((finish format draft').run fs).1
      ∧ ((finish format draft).run fs).2.result
        = ((finish format draft').run fs).2.result := by
  unfold finish
  rw [h]
  cases draft'.result with
  | error e => exact ⟨rfl, rfl⟩
  | ok made =>
      dsimp only
      rw [Access.run_bind, Access.run_bind]
      exact ⟨rfl, rfl⟩

/-- A run depends on what the draft comes to alone. -/
theorem outcome_congr {render : Renderer}
    (h : (c.draft render).result = (c'.draft render).result)
    (format : Formatter) (fs : FileSystem) :
    c.outcome render format fs = c'.outcome render format fs := by
  obtain ⟨htree, hresult⟩ := run_finish_congr h format fs
  unfold outcome
  rw [generate_eq, generate_eq]
  exact Prod.ext htree hresult

/-- Contexts that select alike have one outcome, whatever they are rendered
and formatted with. -/
theorem SelectsAlike.outcome_eq (h : c.SelectsAlike c') (render : Renderer)
    (format : Formatter) (fs : FileSystem) :
    c.outcome render format fs = c'.outcome render format fs :=
  outcome_congr (h.draft_result render) format fs

/-- Contexts that select the very same operations select alike. -/
theorem selectsAlike_of_selected_eq (h : c.selected = c'.selected)
    (hassembly : c.assembly = c'.assembly) (hmodules : c.modules = c'.modules)
    (houtputPath : c.outputPath = c'.outputPath) : c.SelectsAlike c' :=
  ⟨hassembly, hmodules, houtputPath, h ▸ List.forall₂_same.2 fun op _ =>
    Operation.Alike.refl op⟩

/-- An entry that is absent or dropped leaves the selected operations as they
are, wherever it stands. -/
theorem selected_insert {entry : Option Operation}
    (h : ∀ op, entry = some op → c.selection.keepsId op.id = false)
    (before after : List (Option Operation)) :
    (c.withEntries (before ++ entry :: after)).selected
      = (c.withEntries (before ++ after)).selected := by
  show (((before ++ entry :: after).filterMap id).filter _)
    = ((before ++ after).filterMap id).filter _
  rw [List.filterMap_append, List.filterMap_append, List.filter_append,
    List.filter_append]
  refine congrArg _ ?_
  cases entry with
  | none => rfl
  | some op =>
      show (op :: after.filterMap id).filter
        (fun op => c.selection.keepsId op.id) = _
      exact List.filter_cons_of_neg (by rw [h op rfl]; decide)

/-- What a selection leaves is selected whole by the empty one. -/
theorem selected_of_apply {entries : List (Option Operation)}
    (h : (c.selection.apply c.entries : Logged GenerationError _).result
      = .ok entries) :
    ({ c with entries, selection := {} } : GenerationContext).selected
      = c.selected := by
  rw [Selection.apply_eq] at h
  cases h
  have hall : ∀ ops : List Operation,
      ops.filter (fun op => ({} : Selection).keepsId op.id) = ops :=
    fun ops => List.filter_eq_self.2 fun _ _ => rfl
  exact (hall _).trans (Selection.filterMap_filter_keeps _ _)

/-- Contexts that select alike come to the same artifacts and counts, or to
the same error. So an operation that is dropped has no say, accepted or not;
no more has an absent entry; and it makes no difference whether a selection
is part of the context or has been applied to its entries. -/
theorem outcome_of_selected (render : Renderer) (format : Formatter)
    (fs : FileSystem) :
    (∀ c c' : GenerationContext, c.SelectsAlike c' →
        c.outcome render format fs = c'.outcome render format fs)
      ∧ (∀ (c : GenerationContext) (before after : List (Option Operation))
          (op : Operation), c.selection.keepsId op.id = false →
        (c.withEntries (before ++ some op :: after)).outcome render format fs
          = (c.withEntries (before ++ after)).outcome render format fs)
      ∧ (∀ (c : GenerationContext) (before after : List (Option Operation)),
        (c.withEntries (before ++ none :: after)).outcome render format fs
          = (c.withEntries (before ++ after)).outcome render format fs)
      ∧ ∀ (c : GenerationContext) (entries : List (Option Operation)),
        (c.selection.apply c.entries : Logged GenerationError _).result
          = .ok entries →
        ({ c with entries, selection := {} } : GenerationContext).outcome
            render format fs
          = c.outcome render format fs := by
  refine ⟨fun c c' h => h.outcome_eq render format fs,
    fun c before after op hop => ?_, fun c before after => ?_,
    fun c entries h => ?_⟩
  · have hdropped : ∀ other, some op = some other →
        c.selection.keepsId other.id = false := by
      intro other hother
      rw [← Option.some.inj hother]
      exact hop
    have hselected := selected_insert hdropped before after
    exact (selectsAlike_of_selected_eq hselected rfl rfl rfl).outcome_eq render
      format fs
  · have habsent : ∀ other : Operation, none = some other →
        c.selection.keepsId other.id = false := fun _ h => by cases h
    have hselected := selected_insert habsent before after
    exact (selectsAlike_of_selected_eq hselected rfl rfl rfl).outcome_eq render
      format fs
  · exact (selectsAlike_of_selected_eq (selected_of_apply h) rfl rfl
      rfl).outcome_eq render format fs

/-- A context with one operation. -/
def single : GenerationContext where
  entries := [some Operation.tangled]
  selection := ⟨[], ["2bad"]⟩
  outputPath := "out.ts"

/-- The same operation sent another way, between an absent entry and one that
breaks a rule and is dropped. -/
def rerouted : GenerationContext :=
  single.withEntries [none,
    some { Operation.tangled with
      parameters := Operation.tangled.parameters.map fun p =>
        { p with location := .body, headerName := some "X-Id" }
      consumes := some "application/json" },
    some { Operation.tangled with id := "2bad" }]

/-- A tree with nothing in it. -/
def bare : FileSystem := ⟨.directory [], []⟩

theorem rerouted_outcome :
    rerouted.SelectsAlike single
      ∧ Operation.checkId "2bad" = .error (.badId "2bad")
      ∧ rerouted.outcome (fun _ => .ok "//") .none bare
        = single.outcome (fun _ => .ok "//") .none bare
      ∧ (rerouted.outcome (fun _ => .ok "//") .none bare).2
        = .ok ⟨[⟨"out.ts", "//"⟩], 1, 1⟩ := by
  have halike : rerouted.SelectsAlike single := by
    refine ⟨rfl, rfl, rfl, .cons ⟨rfl, rfl, ?_, rfl, rfl, rfl, rfl⟩ .nil⟩
    exact .cons ⟨rfl, rfl⟩ (.cons ⟨rfl, rfl⟩ .nil)
  have hsame := (outcome_of_selected (fun _ => .ok "//") .none
    bare).1 rerouted single halike
  have haccepted : ∀ op ∈ single.selected, op.Accepted := by
    intro op hop
    rw [List.mem_singleton.1 hop]
    exact Operation.tangled_accepted
  have hdraft : single.draft (fun _ => .ok "//")
      = ⟨_, .ok ⟨[⟨"out.ts", "//"⟩], 1, 1⟩⟩ :=
    draft_of_accepted rfl haccepted rfl
  have hdrafts : single.Drafts (fun _ => .ok "//") "//" _ :=
    ⟨congrArg Logged.result hdraft, rfl⟩
  refine ⟨halike, rfl, hsame, ?_⟩
  rw [hsame]
  show ((single.generate (fun _ => .ok "//") (.pure .ok)).run bare).2.result
    = _
  rw [run_generate_of_drafts hdrafts]
  rfl

end GenerationContext

end ApiContract
