/-
Generation with a formatter that is a function of the code. Such a generation
touches no file, and what it comes to is a sequence of two steps: the draft,
which is one artifact at the output path, and the formatter on its content.
-/
import ApiContract.Generation.Basic
import ApiContract.Proofs.Files.Access
import ApiContract.Proofs.Notice
import ApiContract.Proofs.Operation.Selection
import ApiContract.Proofs.OperationSet

namespace ApiContract

-- ================================================== statement vocabulary

/-- A formatter that is a function of the code, and uses no file. -/
def Formatter.pure (f : String → Logged FormatError String) : Formatter :=
  fun code => .done (f code)

namespace GenerationContext

/-- The operations that are there and that the selection keeps, in order. -/
def selected (c : GenerationContext) : List Operation :=
  (c.entries.filterMap id).filter fun op => c.selection.keepsId op.id

/-- The lines that import what the selected operations refer to. -/
def importLines (c : GenerationContext) : List String :=
  (importedTypes c.selected).map (importLine c.assembly.definitionsPath)

/-- The code of the selected operations. -/
def selectedCode (c : GenerationContext) : OperationSet where
  imports := c.importLines
  operations := c.selected.map fun op => op.codeText c.assembly.decoders
  decoderBlocks := if c.assembly.decoders then
    c.selected.countP (·.success?.isSome) else 0

/-- The draft of a context is a module of this text, and counts. -/
structure Drafts (c : GenerationContext) (render : Renderer) (code : String)
    (made : Generated) : Prop where
  draft : (c.draft render).result = .ok made
  artifacts : made.artifacts = [⟨c.outputPath, code⟩]

-- ================================================================ drafts

variable {c : GenerationContext} {render : Renderer}

/-- A draft is one artifact at the output path. -/
theorem exists_drafts {made : Generated}
    (h : (c.draft render).result = .ok made) :
    ∃ code, c.Drafts render code made := by
  unfold draft at h
  obtain ⟨-, -, h'⟩ := Logged.result_bind_eq_ok.1 h
  obtain ⟨entries, -, h'⟩ := Logged.result_bind_eq_ok.1 h'
  obtain ⟨set, -, h'⟩ := Logged.result_bind_eq_ok.1 h'
  obtain ⟨code, -, h'⟩ := Logged.result_bind_eq_ok.1 h'
  cases h'
  exact ⟨code, h, rfl⟩

/-- A context that passes its check and whose selected operations are
accepted drafts the module that its code is rendered to. -/
theorem draft_of_accepted {code : String} (hcheck : c.check = .ok ())
    (haccepted : ∀ op ∈ c.selected, op.Accepted)
    (h : render (c.bindings c.selectedCode) = .ok code) :
    c.draft render
      = ⟨c.selection.notices c.entries
          ++ c.selected.flatMap fun op => op.check.notices,
        .ok ⟨[⟨c.outputPath, code⟩], c.selectedCode.operations.length,
          c.selectedCode.decoderBlocks⟩⟩ := by
  have hpresent :
      (c.entries.filter c.selection.keeps).filterMap id = c.selected :=
    Selection.filterMap_filter_keeps c.selection c.entries
  have hset : OperationSet.ofEntries
      (c.entries.filter c.selection.keeps) c.assembly
      = ⟨c.selected.flatMap fun op => op.check.notices,
        .ok c.selectedCode⟩ := by
    rw [← hpresent] at haccepted
    rw [OperationSet.ofEntries_of_accepted haccepted, hpresent]
    rfl
  unfold draft
  rw [hcheck, Logged.bind_of_ok rfl, Selection.apply_eq,
    Logged.bind_of_ok rfl]
  dsimp only
  rw [hset, Logged.bind_of_ok rfl, h]
  show (⟨_ ++ ((c.selected.flatMap fun op => op.check.notices) ++ []), _⟩ :
    Logged GenerationError Generated) = _
  rw [List.append_nil]
  rfl

-- ============================================================ generation

variable {f : String → Logged FormatError String} {fs : FileSystem}

/-- One artifact, formatted. -/
theorem run_formatAll_pure (a : Artifact) :
    (formatAll (.pure f) [a]).run fs
      = (fs, ⟨(f a.content).notices,
          ((f a.content).result.mapError .format).map
            ([{ a with content := · }])⟩) := by
  show Access.run (formatAll (fun code => .done (f code)) [a]) fs = _
  unfold formatAll
  rw [Access.run_bind]
  unfold Access.run
  dsimp only
  generalize f a.content = made
  obtain ⟨notices, result⟩ := made
  cases result with
  | error e => rfl
  | ok content =>
      show (fs, (⟨notices ++ [], _⟩ : Logged _ _)) = _
      rw [List.append_nil]
      rfl

theorem run_generate_of_error {e : GenerationError}
    (h : (c.draft render).result = .error e) :
    (c.generate render (.pure f)).run fs
      = (fs, ⟨(c.draft render).notices, .error e⟩) := by
  unfold generate
  dsimp only
  rw [h]
  rfl

theorem run_generate_of_drafts {code : String} {made : Generated}
    (h : c.Drafts render code made) :
    (c.generate render (.pure f)).run fs
      = (fs, ⟨(c.draft render).notices ++ (f code).notices,
          ((f code).result.mapError .format).map fun content =>
            { made with artifacts := [⟨c.outputPath, content⟩] }⟩) := by
  unfold generate
  dsimp only
  rw [h.draft]
  dsimp only
  rw [h.artifacts, Access.run_bind, run_formatAll_pure]
  cases (f code).result with
  | error e => rfl
  | ok content => rfl

end GenerationContext

end ApiContract
