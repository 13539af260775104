/-
The output file that a run is asked for. It is split into a directory and a
name that lead back to it, so the request of a run names a file that is there
and relative (`onlyErrors_check_split`). A run that comes to its request
reports whatever else is wrong with that (`run_of_comesTo`), and no run
reports the file (`endsIn_run`): reports are told apart by what their texts
begin with.
-/
import ApiContract.CommandLine.Run
import ApiContract.Proofs.Files.Components
import ApiContract.Proofs.Generation.Failure
import ApiContract.Proofs.Generation.Module

namespace ApiContract

-- ================================================== statement vocabulary

/-- The report on a request that is not carried out. -/
def RunError.report (e : RunError) : CommandLine.Report :=
  ⟨"Failed to generate request types", e.message :: e.grounds⟩

namespace CommandLine

/-- The report is on a request that names no output file, or an absolute
one. -/
def Report.BlamesOutputFile (report : Report) : Prop :=
  ∃ e : RequestError, e.OnOutputFile ∧ report = (RunError.request e).report

/-- On the first tree the task comes to the request, and the second one is
left of it then. -/
inductive Task.ComesTo (fs : FileSystem) : Task → Request → FileSystem → Prop
  | generate {operations out d f : String} {config : Option String}
      {overrides : Overrides} {settings : Settings} {render : Renderer}
      {fs' fs'' : FileSystem}
      (configured : (loadSettings config).run.run fs = (fs', .ok settings))
      (templated : (loadRenderer
        (settings.override overrides).templateFile).run.run fs'
          = (fs'', .ok render))
      (split : Path.split? out = some (d, f)) :
      ComesTo fs (.generate operations out config overrides)
        ⟨operations, d, f, settings.override overrides⟩ fs''

end CommandLine

-- ============================================================== messages

/-- Two openings of one text: one begins with the other. -/
theorem openings_of_append_eq {a b s t : String} (h : a ++ s = b ++ t) :
    a.toList <+: b.toList ∨ b.toList <+: a.toList := by
  have ha : a.toList <+: (a ++ s).toList :=
    String.toList_append ▸ List.prefix_append _ _
  have hb : b.toList <+: (a ++ s).toList :=
    h ▸ String.toList_append ▸ List.prefix_append _ _
  exact List.prefix_or_prefix_of_prefix ha hb

/-- What begins otherwise is another text. -/
theorem append_ne {a b s : String} (h : ¬ a.toList <+: b.toList) :
    a ++ s ≠ b := by
  rintro rfl
  exact h (String.toList_append ▸ List.prefix_append _ _)

/-- How the message of an error begins. -/
def RequestError.opening : RequestError → String
  | noSource => "Missing required field: operations source"
  | noOutputFile => "Missing required field: output file"
  | absoluteOutputFile _ => "Invalid output file: "
  | emptySetting _ => "Invalid configuration: "

theorem RequestError.exists_message (e : RequestError) :
    ∃ s, e.message = e.opening ++ s := by
  cases e with
  | noSource => exact ⟨"", rfl⟩
  | noOutputFile => exact ⟨"", rfl⟩
  | absoluteOutputFile path => exact ⟨_, String.append_assoc ..⟩
  | emptySetting name => exact ⟨_, String.append_assoc ..⟩

/-- An error with the message of one about the output file is one itself. -/
theorem RequestError.onOutputFile_of_message {e e' : RequestError}
    (he : e.OnOutputFile) (h : e'.message = e.message) : e'.OnOutputFile := by
  obtain ⟨s, hs⟩ := e.exists_message
  obtain ⟨s', hs'⟩ := e'.exists_message
  rw [hs, hs'] at h
  have hopenings := openings_of_append_eq h
  cases e' with
  | noOutputFile => exact .missing
  | absoluteOutputFile path => exact .absolute path
  | _ =>
      exfalso
      revert hopenings
      cases he <;> dsimp only [opening] <;> decide

/-- What is reported as an error in a request is one, in the same words. -/
theorem RunError.request_of_report {e : RunError} {e' : RequestError}
    (h : e.report = (RunError.request e').report) :
    ∃ e'', e = .request e'' ∧ e''.message = e'.message := by
  obtain ⟨hmessage, hgrounds⟩ :=
    List.cons.inj (congrArg CommandLine.Report.causes h)
  cases e with
  | request e'' => exact ⟨e'', rfl, (List.cons.inj hgrounds).1⟩
  | _ e =>
      exfalso
      have hopenings := openings_of_append_eq hmessage
      revert hopenings
      decide

/-- Where the check of a request says nothing on the output file, no report
on it does. -/
theorem Request.not_blames_of_mayFailWith {r : Request} {e : RunError}
    (hcheck : OnlyErrors (¬ ·.OnOutputFile) r.check)
    (h : r.MayFailWith e) : ¬ e.report.BlamesOutputFile := by
  rintro ⟨e', he', hreport⟩
  obtain ⟨e'', rfl, hmessage⟩ := RunError.request_of_report hreport
  have hfails : r.check = .error e'' := h
  rw [hfails] at hcheck
  exact hcheck (RequestError.onOutputFile_of_message he' hmessage)

-- =============================================================== courses

namespace CommandLine

variable {α β ε : Type} {allowed : Report → Prop}

/-- A course ends where its first step fails, and else goes on from there. -/
theorem Course.run_bind (x : Course α) (f : α → Course β) (fs : FileSystem) :
    (x >>= f).run.run fs
      = match x.run.run fs with
        | (fs', .ok a) => (f a).run.run fs'
        | (fs', .error report) => (fs', .error report) := by
  refine (Access.run_bind x.run _ fs).trans ?_
  cases x.run.run fs with
  | mk fs' outcome => cases outcome <;> rfl

/-- It fails where that does, or what follows. -/
theorem Course.endsIn_bind {x : Course α} {f : α → Course β}
    (hx : x.run.EndsIn (OnlyErrors allowed))
    (hf : ∀ a, (f a).run.EndsIn (OnlyErrors allowed)) :
    (x >>= f).run.EndsIn (OnlyErrors allowed) := by
  refine Access.EndsIn.bind hx ?_
  rintro (report | a) h
  · exact h
  · exact hf a

theorem endsIn_orReport {report : ε → Report} {x : Access (Except ε α)}
    (h : x.EndsIn (OnlyErrors fun e => allowed (report e))) :
    (orReport report x).run.EndsIn (OnlyErrors allowed) :=
  h.bind fun _ hr => .mapError hr

/-- What fails in other words is no request. -/
theorem Report.not_blames {opening subject : String} {causes : List String}
    (h : ¬ opening.toList <+: "Failed to generate request types".toList) :
    ¬ Report.BlamesOutputFile ⟨opening ++ subject, causes⟩ := by
  rintro ⟨e, -, hreport⟩
  exact append_ne h (congrArg Report.context hreport)

theorem endsIn_orReport_of_opening {opening subject : String}
    {causes : ε → List String}
    (h : ¬ opening.toList <+: "Failed to generate request types".toList)
    (x : Access (Except ε α)) :
    (orReport (fun e => ⟨opening ++ subject, causes e⟩) x).run.EndsIn
      (OnlyErrors (¬ ·.BlamesOutputFile)) :=
  endsIn_orReport (.of_forall (.of_forall fun _ => Report.not_blames h) x)

/-- A file that is split off from a path is none that a check refuses. -/
theorem onlyErrors_check_split {p d f : String}
    (h : Path.split? p = some (d, f)) (source : String)
    (settings : Settings) : OnlyErrors (¬ ·.OnOutputFile)
      (Request.check ⟨source, d, f, settings⟩) := by
  have hname : Path.IsName f :=
    Path.isName_of_mem (List.mem_of_getLast? (Path.split?_eq_some h).1)
  exact Request.onlyErrors_check hname.not_empty
    (Path.lead_eq_nil_iff.1 hname.components_eq.1).1

-- ================================================================== runs

theorem endsIn_loadSettings (config : Option String) :
    (loadSettings config).run.EndsIn
      (OnlyErrors (¬ ·.BlamesOutputFile)) := by
  cases config with
  | none => trivial
  | some path => exact endsIn_orReport_of_opening (by decide) _

/-- Generating fails with no such report. -/
theorem endsIn_generate (operations out : String) (config : Option String)
    (overrides : Overrides) :
    (generate operations out config overrides).run.EndsIn
      (OnlyErrors (¬ ·.BlamesOutputFile)) := by
  unfold generate
  refine Course.endsIn_bind (endsIn_loadSettings config) fun settings => ?_
  refine Course.endsIn_bind (endsIn_orReport_of_opening (by decide) _)
    fun render => ?_
  unfold splitOutput
  cases hsplit : Path.split? out with
  | none =>
      show ¬ Report.BlamesOutputFile ⟨"Output path '" ++ out ++ _, []⟩
      rw [String.append_assoc]
      exact Report.not_blames (by decide)
  | some parts =>
      obtain ⟨d, f⟩ := parts
      have hcheck := onlyErrors_check_split hsplit operations
        (settings.override overrides)
      refine endsIn_orReport ((Request.endsIn_execute _ render _).bind ?_)
      exact fun outcome h => h.mono fun e =>
        Request.not_blames_of_mayFailWith hcheck

/-- No task does. -/
theorem endsIn_run (task : Task) :
    task.run.run.EndsIn (OnlyErrors (¬ ·.BlamesOutputFile)) := by
  cases task with
  | version => trivial
  | generate operations out config overrides =>
      exact Course.endsIn_bind (endsIn_generate operations out config overrides)
        fun _ => trivial
  | inspect operations =>
      exact endsIn_orReport_of_opening (by decide) _

/-- A run that comes to its request reports what is wrong with that, and that
is not the output file. -/
theorem run_of_comesTo {task : Task} {fs fs' : FileSystem} {r : Request}
    (h : task.ComesTo fs r fs') {e : RequestError}
    (hcheck : r.check = .error e) : ¬ e.OnOutputFile
      ∧ task.run.run.run fs = (fs', .error (RunError.request e).report) := by
  cases h with
  | @generate operations out d f config overrides settings render fs₁ _
      configured templated split =>
      have hfile := onlyErrors_check_split split operations
        (settings.override overrides)
      rw [hcheck] at hfile
      refine ⟨hfile, ?_⟩
      have hparts : (splitOutput out).run.run fs' = (fs', .ok (d, f)) := by
        unfold splitOutput
        rw [split]
        rfl
      have hgenerate : (generate operations out config overrides).run.run fs
          = (fs', .error (RunError.request e).report) := by
        unfold generate
        simp only [Course.run_bind, configured, templated, hparts]
        unfold orReport Request.execute
        rw [hcheck]
        rfl
      unfold Task.run
      dsimp only
      rw [Course.run_bind, hgenerate]

/-- The output file of a run is the one that was asked for, and no check
refuses it. A path is split when its last component is a name, so not when
there is none, or when it goes up at its end. What it is split into is that
name, and a directory that leads back to the path, from a dot if the path is a
lone name. A run that comes to a request with this file reports all that is
wrong with it, but the file never is, and no run reports that. What a request
passes, its context passes, so no run fails for a path that its context
lacks. -/
theorem output_kept_and_accepted :
    (∀ p, (Path.split? p).isSome = true
      ↔ ∃ f, (Path.components p).getLast? = some (.name f))
    ∧ (∀ p, Path.split? p = none
      ↔ Path.components p = [] ∨ Path.components p = [.root]
        ∨ Path.components p = [.current]
        ∨ (Path.components p).getLast? = some .up)
    ∧ Path.split? "" = none ∧ Path.split? "/" = none
    ∧ Path.split? "." = none ∧ (∀ p, Path.split? (Path.join p "..") = none)
    ∧ (∀ p d f, Path.split? p = some (d, f) →
      Path.IsName f ∧ (Path.components p).getLast? = some (.name f)
      ∧ Path.components f = [.name f] ∧ d ≠ ""
      ∧ Path.components (Path.join d f)
        = (if (Path.components p).length = 1 then
            .current :: Path.components p
          else Path.components p)
      ∧ ∀ source settings, OnlyErrors (¬ ·.OnOutputFile)
        (Request.check ⟨source, d, f, settings⟩))
    ∧ (∀ (task : Task) fs r fs', task.ComesTo fs r fs' →
      ∀ e, r.check = .error e → ¬ e.OnOutputFile
        ∧ task.run.run.run fs = (fs', .error (RunError.request e).report))
    ∧ (∀ task : Task,
      task.run.run.EndsIn (OnlyErrors (¬ ·.BlamesOutputFile)))
    ∧ (∀ (r : Request) entries, r.check = .ok () →
      (r.context entries).check = .ok ())
    ∧ ∀ (r : Request) render format, (r.execute render format).EndsIn
      fun outcome => OnlyErrors r.MayFailWith outcome.result := by
  refine ⟨fun p => Path.isSome_split?_iff, fun p => Path.split?_eq_none_iff,
    by decide, by decide, by decide, Path.split?_join_up, ?_,
    fun task fs r fs' h e => run_of_comesTo h, endsIn_run,
    fun r entries h => Request.check_context h entries,
    Request.endsIn_execute⟩
  intro p d f h
  have hlast := (Path.split?_eq_some h).1
  have hname := Path.isName_of_mem (List.mem_of_getLast? hlast)
  obtain ⟨hd, hjoin⟩ := Path.components_join_split? h
  exact ⟨hname, hlast, hname.components_eq.2, hd, hjoin,
    onlyErrors_check_split h⟩

theorem split?_lone : Path.split? "module.ts" = some (".", "module.ts") := by
  decide

/-- A run with a blank source comes to its request. -/
theorem comesTo_unsourced (fs : FileSystem) :
    Task.ComesTo fs (.generate " " "module.ts" none {})
      ⟨" ", ".", "module.ts", {}⟩ fs := by
  obtain ⟨render, hstandard, -⟩ := Renderer.exists_standard
  have hconfigured : (loadSettings none).run.run fs = (fs, .ok {}) := rfl
  have htemplated :
      (loadRenderer (({} : Settings).override {}).templateFile).run.run fs
        = (fs, .ok render) := by
    show (loadRenderer none).run.run fs = _
    unfold loadRenderer Renderer.load
    rw [hstandard]
    rfl
  exact .generate hconfigured htemplated split?_lone

/-- A path in a roundabout spelling and a lone name, a request that is
accepted, and a run that fails for another reason. -/
theorem output_of_spellings :
    Path.split? "out//new/./module.ts/" = some ("out//new", "module.ts")
    ∧ Path.components (Path.join "out//new" "module.ts")
      = Path.components "out//new/./module.ts/"
    ∧ Path.components (Path.join "." "module.ts")
      = .current :: Path.components "module.ts"
    ∧ (Request.context ⟨"operations.json", ".", "module.ts", {}⟩ []).check
      = .ok ()
    ∧ ∀ fs : FileSystem,
      (Task.run (.generate " " "module.ts" none {})).run.run fs
        = (fs, .error (RunError.request .noSource).report)
      ∧ ¬ (RunError.request .noSource).report.BlamesOutputFile := by
  obtain ⟨-, -, -, -, -, -, hsplit, hrun, hends, hcontext, -⟩ :=
    output_kept_and_accepted
  have hlong : Path.split? "out//new/./module.ts/"
      = some ("out//new", "module.ts") := by decide
  obtain ⟨-, -, -, -, hjoin, -⟩ := hsplit _ _ _ hlong
  obtain ⟨-, -, -, -, hjoin', -⟩ := hsplit _ _ _ split?_lone
  refine ⟨hlong, ?_, ?_, hcontext _ [] rfl, fun fs => ?_⟩
  · rw [hjoin, if_neg (by decide)]
  · rw [hjoin', if_pos (by decide)]
  · have hfails := (hrun _ fs _ fs (comesTo_unsourced fs) .noSource rfl).2
    refine ⟨hfails, ?_⟩
    have hreport : ∀ task fs', (Task.run task).run.run fs
        = (fs', .error (RunError.request .noSource).report) →
          ¬ (RunError.request .noSource).report.BlamesOutputFile := by
      intro task fs' h
      have hend := (hends task).run fs
      rw [h] at hend
      exact hend
    exact hreport _ fs hfails

end CommandLine

end ApiContract
