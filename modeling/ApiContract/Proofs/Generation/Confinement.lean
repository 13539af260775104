/-
Where the module of a request ends up. All that carrying a request out creates
is what its formatter creates, and the target: the output directory is joined
with the output file once, and nothing else is handed to be written. The check
asks for a relative output file, and the target is below the output directory
exactly when that file also stays inside of it (`Path.StaysInside`). Then the
files of all other places are as they were, whichever tree the request is
carried out in. A file that takes back the whole output directory is accepted
as well, and written outside.

The formatter is any computation here, so what it creates is a parameter.
-/
import ApiContract.Proofs.Files.Confinement
import ApiContract.Proofs.Generation.Request

namespace ApiContract

open FileSystem (FilesKept)

variable {allowed : String → Prop}

-- =============================================================== writing

namespace Output

theorem createsOnly_ensureDirectory (p : String) :
    (ensureDirectory p).CreatesOnly allowed :=
  (Access.createsOnly_ensureFirst _).bind fun _ _ => trivial

theorem createsOnly_ensureParent (p : String) :
    (ensureParent p).CreatesOnly allowed := by
  unfold ensureParent
  split
  case h_1 =>
    split
    case isTrue => trivial
    case isFalse => exact createsOnly_ensureDirectory _
  case h_2 => trivial

theorem createsOnly_writeArtifact {a : Artifact} (h : allowed a.path) :
    (writeArtifact a).CreatesOnly allowed := by
  refine (createsOnly_ensureParent a.path).bind ?_
  rintro (e | _) -
  · trivial
  · exact ⟨h, fun _ => trivial⟩

/-- Artifacts are created under their own paths. -/
theorem createsOnly_writeArtifacts {as : List Artifact}
    (h : ∀ a ∈ as, allowed a.path) :
    (writeArtifacts as).CreatesOnly allowed := by
  induction as with
  | nil => trivial
  | cons a as ih =>
      obtain ⟨ha, has⟩ := List.forall_mem_cons.1 h
      refine (createsOnly_writeArtifact ha).bind ?_
      rintro (e | _) -
      · trivial
      · exact ih has

end Output

-- ============================================================ generation

/-- Loading reads. -/
theorem Operations.createsOnly_load (source : String) :
    (load source).CreatesOnly allowed := by
  have hread : (Access.readText source).CreatesOnly allowed :=
    fun _ => trivial
  refine hread.bind ?_
  rintro (fault | text) - <;> trivial

namespace GenerationContext

variable {format : Formatter}

/-- Formatting keeps the paths of the artifacts. -/
theorem within_formatAll (hformat : ∀ code, (format code).CreatesOnly allowed)
    (as : List Artifact) : (formatAll format as).Within allowed fun made =>
      ∀ others, made.result = .ok others →
        others.map Artifact.path = as.map Artifact.path := by
  induction as with
  | nil =>
      intro others hothers
      cases hothers
      rfl
  | cons a as ih =>
      unfold formatAll
      refine (hformat a.content).bind fun formatted _ => ?_
      dsimp only
      cases (formatted.mapError GenerationError.format).result with
      | error e =>
          intro others hothers
          cases hothers
      | ok content =>
          refine ih.bind fun made hmade => ?_
          intro others hothers
          obtain ⟨rest, hrest, rfl⟩ := map_eq_ok.1 hothers
          rw [List.map_cons, List.map_cons, hmade rest hrest]

/-- What is generated is one artifact, at the output path. -/
theorem within_generate (c : GenerationContext) (render : Renderer)
    (hformat : ∀ code, (format code).CreatesOnly allowed) :
    (c.generate render format).Within allowed fun outcome =>
      ∀ made, outcome.result = .ok made →
        made.artifacts.map Artifact.path = [c.outputPath] := by
  unfold generate
  dsimp only
  cases hdraft : (c.draft render).result with
  | error e =>
      intro made hmade
      cases hmade
  | ok draft =>
      obtain ⟨code, hdrafts⟩ := exists_drafts hdraft
      refine (within_formatAll hformat draft.artifacts).bind ?_
      intro formatted hformatted made hmade
      obtain ⟨as, has, rfl⟩ := map_eq_ok.1 hmade
      exact (hformatted as has).trans (congrArg _ hdrafts.artifacts)

end GenerationContext

-- ============================================================= the request

namespace Request

variable {r : Request} {format : Formatter}

/-- What was generated is written to the target. -/
theorem createsOnly_write {made : Generated}
    (hmade : made.artifacts.map Artifact.path = [r.outputFile])
    (htarget : allowed r.target) : (r.write made).CreatesOnly allowed := by
  refine (Output.createsOnly_ensureDirectory r.outputDirectory).bind ?_
  rintro (e | _) -
  · trivial
  · refine Output.createsOnly_writeArtifacts fun a ha => ?_
    obtain ⟨b, hb, rfl⟩ := List.mem_map.1 ha
    have hpath : b.path = r.outputFile := by
      rw [← List.mem_singleton, ← hmade]
      exact List.mem_map_of_mem hb
    show allowed (Path.join r.outputDirectory b.path)
    rw [hpath]
    exact htarget

theorem within_generate (r : Request) (render : Renderer)
    (hformat : ∀ code, (format code).CreatesOnly allowed)
    (entries : List (Option Operation)) :
    (r.generate render format entries).Within allowed fun outcome =>
      ∀ made, outcome.result = .ok made →
        made.artifacts.map Artifact.path = [r.outputFile] := by
  refine ((r.context entries).within_generate render hformat).bind ?_
  exact fun outcome houtcome made hmade =>
    houtcome made (mapError_eq_ok.1 hmade)

/-- All that is created is the target, the formatter's own files apart. -/
theorem createsOnly_execute (r : Request) (render : Renderer)
    {own : String → Prop} (hformat : ∀ code, (format code).CreatesOnly own) :
    (r.execute render format).CreatesOnly fun p => own p ∨ p = r.target := by
  have hformat' (code : String) :
      (format code).CreatesOnly fun p => own p ∨ p = r.target :=
    (hformat code).mono (fun _ => .inl) fun _ _ => trivial
  unfold execute
  cases r.check with
  | error e => trivial
  | ok _ =>
      refine (Operations.createsOnly_load r.source).bind ?_
      rintro (e | entries) -
      · trivial
      · refine (r.within_generate render hformat' entries).bind ?_
        intro outcome houtcome
        cases hresult : outcome.result with
        | error e => trivial
        | ok made =>
            exact (createsOnly_write (houtcome made hresult) (.inr rfl)).bind
              fun _ _ => trivial

/-- Carrying an accepted request out creates nothing but its target and the
files of the formatter. The target is below the output directory exactly when
the output file stays inside of it, and then no other file outside of that
directory is created, overwritten or gone, whatever the run comes to. -/
theorem execute_confined (r : Request) (render : Renderer)
    (format : Formatter) (own : String → Prop) (hcheck : r.check = .ok ())
    (hformat : ∀ code, (format code).CreatesOnly own) :
    (r.execute render format).CreatesOnly (fun p => own p ∨ p = r.target)
    ∧ (Path.StrictlyBelow r.target r.outputDirectory
      ↔ Path.StaysInside r.outputDirectory r.outputFile)
    ∧ (Path.StaysInside r.outputDirectory r.outputFile →
      ∀ fs : FileSystem,
        FilesKept (fun q => fs.LedTo own q ∨ fs.InDirectory r.outputDirectory q)
          fs ((r.execute render format).run fs).1) := by
  have hcreates := r.createsOnly_execute render hformat
  have hbelow : Path.StrictlyBelow r.target r.outputDirectory
      ↔ Path.StaysInside r.outputDirectory r.outputFile :=
    Path.strictlyBelow_join (relative_of_check hcheck)
  refine ⟨hcreates, hbelow, fun hstays fs => ?_⟩
  refine (hcreates.filesKept fs).mono ?_
  rintro q ⟨p, hown | rfl, rfl⟩
  · exact .inl ⟨p, hown, rfl⟩
  · exact .inr (fs.inDirectory_of_strictlyBelow (hbelow.2 hstays))

/-- A request whose output file names again what it takes back. -/
def returning : Request :=
  { winding with outputFile := "new/../../out/./module.ts" }

theorem returning_confined : returning.check = .ok ()
    ∧ (∀ code, (Formatter.pure .ok code).CreatesOnly fun _ => False)
    ∧ Path.StrictlyBelow returning.target returning.outputDirectory
    ∧ FilesKept
      (fun q => furnished.LedTo (fun _ => False) q
        ∨ furnished.InDirectory returning.outputDirectory q)
      furnished
      ((returning.execute (fun _ => .ok "//") (.pure .ok)).run
        furnished).1 := by
  have hcheck : returning.check = .ok () := rfl
  have hformat (code : String) :
      (Formatter.pure .ok code).CreatesOnly fun _ => False := trivial
  have hstays : Path.StaysInside returning.outputDirectory
      returning.outputFile :=
    ⟨.inr (by decide), ["module.ts"], by decide, by decide⟩
  obtain ⟨-, hbelow, hkept⟩ := execute_confined returning (fun _ => .ok "//")
    (.pure .ok) (fun _ => False) hcheck hformat
  exact ⟨hcheck, hformat, hbelow.2 hstays, hkept hstays furnished⟩

/-- A request whose output file takes back the output directory. -/
def escaping : Request :=
  { winding with outputFile := "../escaped.ts" }

/-- The request is accepted and carried out, and its module is created outside
of the output directory. -/
theorem escaping_breaks_out : escaping.check = .ok ()
    ∧ ¬ Path.StrictlyBelow escaping.target escaping.outputDirectory
    ∧ ¬ furnished.InDirectory escaping.outputDirectory ["work", "escaped.ts"]
    ∧ furnished.shape? ["work", "escaped.ts"] = none
    ∧ ((escaping.execute (fun _ => .ok "//") (.pure .ok)).run
        furnished).1.shape? ["work", "escaped.ts"]
      = some (some (Text.Utf8.write "//")) := by
  refine ⟨rfl, ?_, ?_, rfl, ?_⟩
  · rintro ⟨rest, -, hnormal⟩
    have hnames := congrArg Path.Normal.names hnormal
    change ["escaped.ts"] = "out" :: rest at hnames
    exact absurd (List.cons.inj hnames).1 (by decide)
  · rintro ⟨rest, -, hplace⟩
    change ["work", "escaped.ts"] = "work" :: "out" :: rest at hplace
    exact absurd (List.cons.inj (List.cons.inj hplace).2).1 (by decide)
  · unfold execute
    rw [show escaping.check = .ok () from rfl]
    dsimp only
    rw [Access.run_bind, show escaping.source = winding.source from rfl,
      load_furnished]
    rfl

end Request

end ApiContract
