/-
A request is carried out in steps, and only the last two of them write: the
output directory is made, then the module in it. So whatever fails before
leaves the tree alone, and whatever fails then leaves nothing but directories
on the way to the target (`run_write`). A request that is carried out has put
one file there, with the text that the formatter has made of the module.

The formatter is a function of the code here (`Formatter.pure`); what a
command does to files is its own affair. Of the two paths of a request no
component goes up, so each names the place that its names spell.
-/
import ApiContract.Generation.Request
import ApiContract.Proofs.Generation.Basic
import ApiContract.Proofs.Generation.Output

namespace ApiContract

open FileSystem (GrownBy Written)

namespace Request

-- ================================================== statement vocabulary

/-- Where the module of a request goes. -/
def target (r : Request) : String := Path.join r.outputDirectory r.outputFile

/-- A place on the way to the output directory or to that of the target. -/
def OnTheWay (r : Request) (fs : FileSystem) (q : Place) : Prop :=
  q <+: fs.placeOf r.outputDirectory ∨ q <+: (fs.placeOf r.target).dropLast

/-- What a request comes to when its module is written: the entries that are
loaded draft a module, and the formatter makes this content of it. -/
def Yields (r : Request) (render : Renderer)
    (f : String → Logged FormatError String) (fs : FileSystem)
    (made : Generated) (content : String) : Prop :=
  ∃ entries code, ((Operations.load r.source).run fs).2 = .ok entries
    ∧ (r.context entries).Drafts render code made
    ∧ (f code).result = .ok content

/-- What is left of a request that was carried out, or failed: nothing, new
directories on the way to the target, or the target. -/
structure Atomic (r : Request) (render : Renderer)
    (f : String → Logged FormatError String) (fs fs' : FileSystem)
    (outcome : Except RunError Completion) : Prop where
  refused : ∀ e, outcome = .error (.request e) → fs' = fs
  notGenerated : ∀ e, outcome = .error (.generation e) → fs' = fs
  notWritten : ∀ e, outcome = .error (.output e) →
    GrownBy (r.OnTheWay fs) fs fs'
  written : ∀ completion, outcome = .ok completion →
    completion.outputPath = r.target
      ∧ ∃ made content, r.Yields render f fs made content
        ∧ completion.operations = made.operations
        ∧ completion.decoderBlocks = made.decoderBlocks
        ∧ fs'.read completion.outputPath = .ok (Text.Utf8.write content)
        ∧ Written fs fs' (fs.placeOf completion.outputPath)
          (Text.Utf8.write content)

-- ================================================================= check

variable {r : Request} {fs : FileSystem}

theorem check_eq_ok_iff : r.check = .ok ()
    ↔ Text.isAllBlank r.source = false ∧ r.outputFile.isEmpty = false
      ∧ Path.isAbsolute r.outputFile = false
      ∧ Text.isAllBlank r.settings.modules.ioTs = false
      ∧ Text.isAllBlank r.settings.modules.requests = false := by
  unfold check
  repeat' split
  all_goals simp_all

/-- A request that passes its check has a relative output file. -/
theorem relative_of_check (h : r.check = .ok ()) :
    Path.isAbsolute r.outputFile = false :=
  (check_eq_ok_iff.1 h).2.2.1

-- ================================================================= paths

theorem isDownward_target (hrelative : Path.isAbsolute r.outputFile = false)
    (hdirectory : Path.IsDownward r.outputDirectory)
    (hfile : Path.IsDownward r.outputFile) : Path.IsDownward r.target := by
  unfold target
  rw [Path.isDownward_iff, (Path.names_join hrelative).1, List.mem_append]
  rintro (hup | hup)
  · exact Path.isDownward_iff.1 hdirectory hup
  · exact Path.isDownward_iff.1 hfile hup

theorem OnTheWay.isPrefix {q : Place}
    (hrelative : Path.isAbsolute r.outputFile = false)
    (h : r.OnTheWay fs q) : q <+: fs.placeOf r.target := by
  rcases h with h | h
  · refine h.trans ?_
    obtain ⟨hnames, habs⟩ :=
      Path.names_join (p := r.outputDirectory) hrelative
    unfold FileSystem.placeOf target
    rw [hnames, habs, List.prefix_append_right_inj]
    exact List.prefix_append _ _
  · exact h.trans (List.dropLast_prefix _)

-- =============================================================== writing

theorem run_write {made : Generated} {content : String}
    (hmade : made.artifacts = [⟨r.outputFile, content⟩])
    (hrelative : Path.isAbsolute r.outputFile = false)
    (hdirectory : Path.IsDownward r.outputDirectory)
    (hfile : Path.IsDownward r.outputFile) :
    (∃ fs' e, (r.write made).run fs = (fs', .error e)
        ∧ GrownBy (r.OnTheWay fs) fs fs')
      ∨ ∃ fs', (r.write made).run fs = (fs', .ok ())
        ∧ fs'.read r.target = .ok (Text.Utf8.write content)
        ∧ Written fs fs' (fs.placeOf r.target) (Text.Utf8.write content) := by
  have hgrown : GrownBy (r.OnTheWay fs) fs
      ((Output.ensureDirectory r.outputDirectory).run fs).1 :=
    (Output.grownBy_ensureDirectory hdirectory).mono fun _ => .inl
  unfold write
  rw [Access.run_bind]
  generalize (Output.ensureDirectory r.outputDirectory).run fs = ensured
    at hgrown ⊢
  obtain ⟨fs₁, ensured⟩ := ensured
  cases ensured with
  | error e => exact .inl ⟨fs₁, e, rfl, hgrown⟩
  | ok _ =>
      dsimp only
      rw [hmade, List.map_singleton, Output.run_writeArtifacts_singleton]
      change (∃ fs' e, (Output.writeArtifact ⟨r.target, content⟩).run fs₁ = _
        ∧ _) ∨ ∃ fs', (Output.writeArtifact ⟨r.target, content⟩).run fs₁ = _
        ∧ _
      have htarget := isDownward_target hrelative hdirectory hfile
      obtain ⟨fs₂, hparents, hwritten⟩ :
          ∃ fs₂, GrownBy (· <+: (fs₁.placeOf r.target).dropLast) fs₁ fs₂ ∧ _ :=
        Output.run_writeArtifact (a := ⟨r.target, content⟩) htarget
      have hgrown₂ : GrownBy (r.OnTheWay fs) fs fs₂ := by
        refine hgrown.trans (hparents.mono fun q hq => .inr ?_)
        rwa [hgrown.placeOf] at hq
      rcases hwritten with ⟨e, hrun⟩ | ⟨fs₃, hcreate, hrun⟩
      · exact .inl ⟨fs₂, e, hrun, hgrown₂⟩
      · obtain ⟨hwritten, hread⟩ := FileSystem.GrownBy.written htarget
          (hgrown₂.mono fun _ => OnTheWay.isPrefix hrelative) hcreate
        exact .inr ⟨fs₃, hrun, hread, hwritten⟩

-- ============================================================= the request

/-- Loading reads, so the tree is as it was. -/
theorem run_load (source : String) (fs : FileSystem) :
    ((Operations.load source).run fs).1 = fs := by
  unfold Operations.load
  rw [Access.run_bind]
  cases ((Access.readText source).run fs).2 <;> rfl

/-- Generation touches no file, and what it comes to, if it does not fail, is
the formatted content of the drafted module. -/
theorem run_generate (render : Renderer)
    (f : String → Logged FormatError String)
    (entries : List (Option Operation)) :
    ∃ outcome, (r.generate render (.pure f) entries).run fs = (fs, outcome)
      ∧ ((∃ e, outcome.result = .error (.generation e))
        ∨ ∃ made code content, (r.context entries).Drafts render code made
          ∧ (f code).result = .ok content
          ∧ outcome.result = .ok
            { made with artifacts := [⟨r.outputFile, content⟩] }) := by
  unfold generate
  rw [Access.run_bind]
  cases hdraft : ((r.context entries).draft render).result with
  | error e =>
      rw [GenerationContext.run_generate_of_error hdraft]
      exact ⟨_, rfl, .inl ⟨e, rfl⟩⟩
  | ok made =>
      obtain ⟨code, hdrafts⟩ := GenerationContext.exists_drafts hdraft
      rw [GenerationContext.run_generate_of_drafts hdrafts]
      refine ⟨_, rfl, ?_⟩
      cases hformat : (f code).result with
      | error e => exact .inl ⟨.format e, rfl⟩
      | ok content => exact .inr ⟨made, code, content, hdrafts, hformat, rfl⟩

/-- Carrying a request out writes its target or, when it fails, nothing: a
request that is refused, cannot be loaded, assembled, rendered or formatted
leaves the tree as it is, and one whose output cannot be written leaves new
directories on the way there at most. -/
theorem execute_atomic (r : Request) (render : Renderer)
    (f : String → Logged FormatError String) (fs : FileSystem)
    (hdirectory : Path.IsDownward r.outputDirectory)
    (hfile : Path.IsDownward r.outputFile) :
    r.Atomic render f fs ((r.execute render (.pure f)).run fs).1
      ((r.execute render (.pure f)).run fs).2.result := by
  have hfailed : ∀ e : RunError, (∀ e', e ≠ .output e') →
      r.Atomic render f fs fs (.error e) := by
    intro e he
    exact ⟨fun _ _ => rfl, fun _ _ => rfl,
      fun e' h => absurd (Except.error.inj h) (he e'), nofun⟩
  unfold execute
  cases hcheck : r.check with
  | error e => exact hfailed _ nofun
  | ok _ =>
  have hrelative := relative_of_check hcheck
  dsimp only
  rw [Access.run_bind, run_load]
  cases hload : ((Operations.load r.source).run fs).2 with
  | error e => exact hfailed _ nofun
  | ok entries =>
  dsimp only
  rw [Access.run_bind]
  obtain ⟨outcome, hrun, houtcome⟩ :=
    run_generate (r := r) render f entries
  rw [hrun]
  dsimp only
  obtain ⟨e, hresult⟩ | ⟨made, code, content, hdrafts, hformat, hresult⟩ :=
    houtcome
  · rw [hresult]
    exact hfailed _ nofun
  · rw [hresult]
    dsimp only
    rw [Access.run_bind]
    have hmade : Generated.artifacts
        { made with artifacts := [⟨r.outputFile, content⟩] }
        = [⟨r.outputFile, content⟩] := rfl
    rcases run_write hmade hrelative hdirectory hfile
      with ⟨fs', e, hwrite, hgrown⟩ | ⟨fs', hwrite, hread, hwritten⟩
    · rw [hwrite]
      exact ⟨nofun, nofun, fun _ _ => hgrown, nofun⟩
    · rw [hwrite]
      refine ⟨nofun, nofun, nofun, ?_⟩
      intro completion h
      cases h
      exact ⟨rfl, made, content, ⟨entries, code, hload, hdrafts, hformat⟩, rfl,
        rfl, hread, hwritten⟩

/-- A request whose paths go round their places. -/
def winding : Request where
  source := "operations.json"
  outputDirectory := "./out//"
  outputFile := "new/./module.ts"

/-- A tree with the operations of that request, and an output directory with
something in it. -/
def furnished : FileSystem where
  working := ["work"]
  root := .directory [("work", .directory [
    ("operations.json", .file (Text.Utf8.write "[null]")),
    ("out", .directory [("module.ts", .file (Text.Utf8.write "// old"))])])]

theorem load_furnished :
    (Operations.load winding.source).run furnished
      = (furnished, .ok [none]) := by
  have hend : "operations.json".endsWith ".json" = true := by
    rw [← String.endsWith_toSlice, String.Slice.endsWith_string_iff]
    decide
  have hname : DocumentFormat.ofName "operations.json" = .json := by
    unfold DocumentFormat.ofName
    rw [if_pos hend]
  show (Operations.load "operations.json").run furnished = _
  unfold Operations.load
  rw [hname]
  rfl

/-- Such a request is carried out, and its module is the one new file. -/
theorem winding_atomic :
    Path.IsDownward winding.outputDirectory
      ∧ Path.IsDownward winding.outputFile
      ∧ ((winding.execute (fun _ => .ok "//") (.pure .ok)).run
        furnished).2.result = .ok ⟨0, 0, "./out//new/./module.ts"⟩
      ∧ winding.Atomic (fun _ => .ok "//") .ok furnished
        ((winding.execute (fun _ => .ok "//") (.pure .ok)).run furnished).1
        ((winding.execute (fun _ => .ok "//") (.pure .ok)).run
          furnished).2.result := by
  have hdirectory : Path.IsDownward winding.outputDirectory := by decide
  have hfile : Path.IsDownward winding.outputFile := by decide
  refine ⟨hdirectory, hfile, ?_,
    execute_atomic winding _ .ok furnished hdirectory hfile⟩
  unfold execute
  rw [show winding.check = .ok () from rfl]
  dsimp only
  rw [Access.run_bind, load_furnished]
  rfl

end Request

end ApiContract
