/-
Generation with the standard template and no formatter, from the entries of a
context to the text of its module. Each step has had its say elsewhere: what
the selection leaves, what the code of accepted operations is, how the
template lays it out. Put one behind another they leave no step that can
fail, and no text that is changed on its way into the module.
-/
import ApiContract.Proofs.Generation.Basic
import ApiContract.Proofs.Generation.Module

namespace ApiContract.GenerationContext

-- ================================================== statement vocabulary

/-- What was generated is one module in the standard layout, around these
texts of the selected operations. -/
structure InStandardLayout (c : GenerationContext) (texts : List String)
    (made : Generated) : Prop where
  /-- The texts are those that each operation has by itself, in order. -/
  codes : c.selected.map (fun op => (op.code c.assembly.decoders).result)
    = texts.map .ok
  imports : c.importLines ≠ [] ↔ ∃ op ∈ c.selected, op.importedTypes ≠ []
  artifacts : made.artifacts = [⟨c.outputPath,
    standardText c.modules.ioTs c.modules.requests c.importLines texts⟩]
  operations : made.operations = texts.length
  /-- The decoder blocks are counted where they have changed a text. -/
  decoderBlocks : ∃ plain : List String,
    c.selected.map (fun op => (op.code false).result) = plain.map .ok
      ∧ made.decoderBlocks = (texts.zip plain).countP
        (fun texts => texts.1 ≠ texts.2)

variable {c : GenerationContext}

-- ================================================================= parts

/-- There are import lines exactly when an operation refers to a type. -/
theorem importLines_ne_nil_iff :
    c.importLines ≠ [] ↔ ∃ op ∈ c.selected, op.importedTypes ≠ [] := by
  unfold importLines
  rw [ne_eq, List.map_eq_nil_iff, importedTypes_eq_nil_iff,
    Classical.not_forall]
  exact exists_congr fun op => Classical.not_imp

theorem map_code_of_accepted (haccepted : ∀ op ∈ c.selected, op.Accepted)
    (decoders : Bool) :
    c.selected.map (fun op => (op.code decoders).result)
      = (c.selected.map fun op => op.codeText decoders).map .ok := by
  rw [List.map_map]
  exact List.map_congr_left fun op hop =>
    (haccepted op hop).code_result decoders

/-- The code of accepted operations around which a module is laid out. -/
theorem inStandardLayout (haccepted : ∀ op ∈ c.selected, op.Accepted) :
    c.InStandardLayout c.selectedCode.operations
      { artifacts := [⟨c.outputPath, standardText c.modules.ioTs
          c.modules.requests c.importLines c.selectedCode.operations⟩]
        operations := c.selectedCode.operations.length
        decoderBlocks := c.selectedCode.decoderBlocks } where
  codes := map_code_of_accepted haccepted c.assembly.decoders
  imports := importLines_ne_nil_iff
  artifacts := rfl
  operations := rfl
  decoderBlocks := ⟨_, map_code_of_accepted haccepted false,
    (OperationSet.countP_changed c.assembly.decoders c.selected).symm⟩

-- ================================================================ module

/-- A context that passes its check, and whose selected operations are
accepted, is generated by the standard template into one artifact: its module
in the standard layout. -/
theorem generate_standard (c : GenerationContext) (fs : FileSystem)
    (hcheck : c.check = .ok ())
    (haccepted : ∀ op ∈ c.selected, op.Accepted) :
    ∃ render texts made, Renderer.standard = .ok render
      ∧ (c.generate render .none).run fs
        = (fs, ⟨c.selection.notices c.entries
            ++ c.selected.flatMap fun op => op.check.notices, .ok made⟩)
      ∧ c.InStandardLayout texts made := by
  obtain ⟨render, hstandard, hrender⟩ := Renderer.exists_standard
  have hcode : render (c.bindings c.selectedCode)
      = .ok (standardText c.modules.ioTs c.modules.requests c.importLines
        c.selectedCode.operations) := hrender _ _ _ _
  have hdraft := draft_of_accepted hcheck haccepted hcode
  have hdrafts : c.Drafts render _ _ := ⟨congrArg Logged.result hdraft, rfl⟩
  refine ⟨render, _, _, hstandard, ?_, inStandardLayout haccepted⟩
  show (c.generate render (.pure .ok)).run fs = _
  rw [run_generate_of_drafts hdrafts, hdraft]
  exact congrArg (fun notices => (fs, Logged.mk notices _))
    (List.append_nil _)

/-- An accepted operation that refers to a type. -/
def referring : Operation :=
  { Operation.tangled with importedTypes := ["Thing"] }

theorem referring_accepted : referring.Accepted := by
  have haccepted := Operation.tangled_accepted
  rw [Operation.accepted_iff] at haccepted ⊢
  exact haccepted

/-- A context whose first module reads like a tag, with an absent entry and
an excluded operation beside the one that is selected. -/
def taglike : GenerationContext where
  entries := [some { referring with id := "other" }, none, some referring]
  assembly := ⟨true, "./defs/"⟩
  modules := ⟨Text.braced (Text.braced " imports "), "<requests>"⟩
  selection := ⟨[], ["other"]⟩
  outputPath := "out.ts"

/-- The tag stands in the module as it is. -/
theorem taglike_standard :
    taglike.check = .ok () ∧ taglike.selected = [referring]
      ∧ ∀ fs, ∃ render code made, Renderer.standard = .ok render
        ∧ ((taglike.generate render .none).run fs).2.result = .ok made
        ∧ (referring.code true).result = .ok code
        ∧ made.operations = 1
        ∧ made.artifacts = [⟨"out.ts",
          standardText (Text.braced (Text.braced " imports ")) "<requests>"
            ["import " ++ Text.braced " Thing " ++ " from \"./defs/Thing\";"]
            [code]⟩] := by
  have hselected : taglike.selected = [referring] := rfl
  have haccepted : ∀ op ∈ taglike.selected, op.Accepted := by
    rw [hselected]
    intro op hop
    rw [List.mem_singleton.1 hop]
    exact referring_accepted
  have hlines : taglike.importLines
      = ["import " ++ Text.braced " Thing " ++ " from \"./defs/Thing\";"] :=
    rfl
  refine ⟨rfl, hselected, fun fs => ?_⟩
  obtain ⟨render, texts, made, hstandard, hrun,
    hcodes, -, hartifacts, hoperations, -⟩ :=
    generate_standard taglike fs rfl haccepted
  rw [hselected] at hcodes
  obtain ⟨code, rfl, hcode⟩ := List.map_eq_singleton_iff.1 hcodes.symm
  rw [hlines] at hartifacts
  exact ⟨render, code, made, hstandard, by rw [hrun], hcode.symm,
    hoperations, hartifacts⟩

end ApiContract.GenerationContext
