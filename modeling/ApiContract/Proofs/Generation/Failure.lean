/-
What a request can fail with. Its check, the check of its context and the
steps behind them fail with errors of their own (`OnlyErrors`), whatever the
accesses on the way yield (`Access.EndsIn`). A request that passes its check
has a context that passes its own (`check_context`), as a text that is not
blank is there. So an error about the paths of a context is none that a
request fails with (`endsIn_execute`).
-/
import ApiContract.Proofs.Files.Confinement
import ApiContract.Proofs.Generation.Request

namespace ApiContract

-- ================================================== statement vocabulary

/-- The error, if it is one, is one of these. -/
def OnlyErrors {ε α : Type} (allowed : ε → Prop) : Except ε α → Prop
  | .ok _ => True
  | .error e => allowed e

/-- Whatever its accesses yield, the computation comes to one of these
results. -/
def Access.EndsIn {α : Type} (result : α → Prop) (x : Access α) : Prop :=
  x.Within (fun _ => True) result

/-- The error is about the output file of a request. -/
inductive RequestError.OnOutputFile : RequestError → Prop
  | missing : OnOutputFile .noOutputFile
  | absolute (path : String) : OnOutputFile (.absoluteOutputFile path)

/-- The error is about a path that a context has to have. -/
inductive GenerationError.OnPaths : GenerationError → Prop
  | output : OnPaths .noOutputPath
  | modules : OnPaths .noRuntimeModule

/-- What a request may fail with: the error of its check, or one of a later
step, which is not about the paths of the context. -/
def Request.MayFailWith (r : Request) : RunError → Prop
  | .request e => r.check = .error e
  | .generation e => ¬ e.OnPaths
  | .output _ => True

-- ================================================================ errors

namespace OnlyErrors

variable {ε ε' α β : Type} {allowed : ε → Prop}

theorem mono {allowed' : ε → Prop} {x : Except ε α}
    (h : OnlyErrors allowed x) (hle : ∀ e, allowed e → allowed' e) :
    OnlyErrors allowed' x := by
  cases x with
  | error e => exact hle e h
  | ok a => trivial

theorem bind {x : Except ε α} {f : α → Except ε β}
    (hx : OnlyErrors allowed x) (hf : ∀ a, OnlyErrors allowed (f a)) :
    OnlyErrors allowed (x >>= f) := by
  cases x with
  | error e => exact hx
  | ok a => exact hf a

theorem map {x : Except ε α} (f : α → β) (h : OnlyErrors allowed x) :
    OnlyErrors allowed (x.map f) := by
  cases x with
  | error e => exact h
  | ok a => trivial

/-- An error is allowed if it is in other words. -/
theorem mapError {x : Except ε α} {f : ε → ε'} {allowed : ε' → Prop}
    (h : OnlyErrors (fun e => allowed (f e)) x) :
    OnlyErrors allowed (x.mapError f) := by
  cases x with
  | error e => exact h
  | ok a => trivial

/-- Where each error is allowed there is nothing to say of the result. -/
theorem of_forall (h : ∀ e, allowed e) (x : Except ε α) :
    OnlyErrors allowed x := by
  cases x with
  | error e => exact h e
  | ok a => trivial

end OnlyErrors

namespace Access.EndsIn

variable {α β : Type} {mid : α → Prop} {result : β → Prop}

theorem of_forall (h : ∀ a, mid a) (x : Access α) : x.EndsIn mid := by
  induction x with
  | done a => exact h a
  | read p next ih => exact ih
  | isDirectory p next ih => exact ih
  | makeDirectory p next ih => exact ih
  | create p content next ih => exact ⟨trivial, ih⟩
  | list p next ih => exact ih

/-- Every computation comes to something. -/
theorem any (x : Access α) : x.EndsIn fun _ => True :=
  of_forall (fun _ => trivial) x

theorem bind {x : Access α} {f : α → Access β} (hx : x.EndsIn mid)
    (hf : ∀ a, mid a → (f a).EndsIn result) : (x >>= f).EndsIn result :=
  Within.bind hx hf

/-- A run comes to one of the results. -/
theorem run {x : Access α} (h : x.EndsIn mid) (fs : FileSystem) :
    mid (x.run fs).2 := by
  induction x generalizing fs with
  | done a => exact h
  | read p next ih => exact ih _ (h _) fs
  | isDirectory p next ih => exact ih _ (h _) fs
  | makeDirectory p next ih =>
      unfold Access.run
      cases fs.makeDirectory p with
      | error fault => exact ih _ (h _) fs
      | ok fs' => exact ih _ (h _) fs'
  | create p content next ih =>
      unfold Access.run
      cases fs.create p content with
      | error fault => exact ih _ (h.2 _) fs
      | ok fs' => exact ih _ (h.2 _) fs'
  | list p next ih => exact ih _ (h _) fs

end Access.EndsIn

-- ============================================================== contexts

namespace GenerationContext

variable {c : GenerationContext} {render : Renderer} {format : Formatter}

/-- Behind the check a draft fails with a violation or a template error. -/
theorem onlyErrors_draft (h : c.check = .ok ()) (render : Renderer) :
    OnlyErrors (¬ ·.OnPaths) (c.draft render).result := by
  unfold draft
  simp only [Logged.result_bind, Logged.result_lift, h, Selection.apply_eq]
  refine OnlyErrors.bind trivial fun _ => .bind trivial fun entries => ?_
  apply OnlyErrors.bind
  · apply OnlyErrors.mapError
    apply OnlyErrors.of_forall
    intro v hpaths
    cases hpaths
  · intro code
    refine .bind (.mapError (.of_forall ?_ _)) fun content => trivial
    intro e hpaths
    cases hpaths

/-- Formatting fails with an error of the formatter. -/
theorem endsIn_formatAll (as : List Artifact) : (formatAll format as).EndsIn
    fun made => OnlyErrors (¬ ·.OnPaths) made.result := by
  induction as with
  | nil => trivial
  | cons a as ih =>
      unfold formatAll
      refine .bind (.any (format a.content)) fun formatted _ => ?_
      dsimp only
      have hformat : OnlyErrors (¬ ·.OnPaths)
          (formatted.mapError GenerationError.format).result := by
        apply OnlyErrors.mapError
        apply OnlyErrors.of_forall
        intro e hpaths
        cases hpaths
      cases hmade : (formatted.mapError GenerationError.format).result with
      | error e => rwa [hmade] at hformat
      | ok content => exact ih.bind fun others hothers => hothers.map _

theorem endsIn_generate (h : c.check = .ok ()) :
    (c.generate render format).EndsIn
      fun made => OnlyErrors (¬ ·.OnPaths) made.result := by
  have hdraft := onlyErrors_draft h render
  unfold generate
  dsimp only
  cases hmade : (c.draft render).result with
  | error e => rwa [hmade] at hdraft
  | ok made =>
      exact (endsIn_formatAll made.artifacts).bind fun _ h => h.map _

end GenerationContext

-- ============================================================== requests

/-- A text that is not blank is not empty. -/
theorem Text.isEmpty_of_isAllBlank {s : String} (h : isAllBlank s = false) :
    s.isEmpty = false := by
  rw [Bool.eq_false_iff, ne_eq, String.isEmpty_iff]
  rintro rfl
  cases h

namespace Request

variable {r : Request}

/-- A request that passes its check has a context that passes its own. -/
theorem check_context (h : r.check = .ok ())
    (entries : List (Option Operation)) :
    (r.context entries).check = .ok () := by
  obtain ⟨-, hfile, -, hioTs, hrequests⟩ := check_eq_ok_iff.1 h
  unfold GenerationContext.check context
  dsimp only
  rw [hfile, Text.isEmpty_of_isAllBlank hioTs,
    Text.isEmpty_of_isAllBlank hrequests]
  rfl

/-- A file that is there and relative is none of the errors of a check. -/
theorem onlyErrors_check (hfile : r.outputFile ≠ "")
    (hrelative : Path.isAbsolute r.outputFile = false) :
    OnlyErrors (¬ ·.OnOutputFile) r.check := by
  have hempty : r.outputFile.isEmpty = false := by
    rw [Bool.eq_false_iff, ne_eq, String.isEmpty_iff]
    exact hfile
  unfold check
  simp only [hempty, hrelative, Bool.false_eq_true, if_false]
  iterate 3
    split
    · exact nofun
  trivial

/-- A request fails with the error of its check, or with one that is not
about the paths of its context. -/
theorem endsIn_execute (r : Request) (render : Renderer) (format : Formatter) :
    (r.execute render format).EndsIn
      fun outcome => OnlyErrors r.MayFailWith outcome.result := by
  unfold execute
  cases hcheck : r.check with
  | error e => exact hcheck
  | ok _ =>
      refine .bind (.any (Operations.load r.source)) ?_
      rintro (e | entries) -
      · exact nofun
      · have hgenerate : (r.generate render format entries).EndsIn
            fun made => OnlyErrors r.MayFailWith made.result :=
          .bind (GenerationContext.endsIn_generate (check_context hcheck _))
            fun made hmade => .mapError hmade
        refine hgenerate.bind fun made hmade => ?_
        cases hresult : made.result with
        | error e =>
            rw [hresult] at hmade
            exact hmade
        | ok generated =>
            refine .bind (.any (r.write generated)) fun written _ => ?_
            exact .map _ (.mapError (.of_forall (fun _ => trivial) _))

end Request

end ApiContract
