/-
What holds however the feeder, the drain and the process take turns. Nothing
is lost on the way: what the process has read, what is in its input and what
is left to feed are the text together (`Fed`), and what was drained of a
stream and what is in its pipe are what the process has written (`Drained`).
Each action preserves both, whether it is the feeder's, the drain's or the
process's own, so both hold after every run.
-/
import ApiContract.Shell.Piping

namespace ApiContract.Shell.Piping

-- ================================================== statement vocabulary

/-- Where the octets of a text are: read by the process, in its input, or left
to feed, unless the process has closed its input. -/
structure Fed (text : Bytes) (s : State) : Prop where
  feeding : s.feeder.result = none →
    s.process.bytesRead ++ s.input.held ++ s.feeder.rest = text
  sent : s.process.bytesRead ++ s.input.held <+: text
  whole : s.feeder.result ≠ none → s.input.hasReader = true →
    s.process.bytesRead ++ s.input.held = text
  seen : .endOfInput ∈ s.process.replies → s.process.bytesRead = text
  unfailed : ∀ r, s.feeder.result = some r → r = .ok ()
  writer : s.input.hasWriter = true ↔ s.feeder.result = none
  gone : s.process.ending ≠ none → s.input.hasReader = false

/-- Where the octets are that the process has written: drained, or in the pipe
of their stream, which the process closes by its end alone. -/
structure Drained (s : State) : Prop where
  kept : ∀ side,
    (s.drain side).taken ++ (s.outlet side).held = s.process.written side
  atEnd : ∀ side, (s.drain side).atEnd = true →
    s.process.ending ≠ none ∧ (s.outlet side).held = []
  writer : ∀ side, (s.outlet side).hasWriter = true ↔ s.process.ending = none
  status : ∀ ending, s.status = some ending → s.process.ending = some ending

variable {c : Capacities} {program : Program} {text : Bytes} {s s' : State}
  {a : Action} {side : Side}

-- =================================================================== steps

theorem step_eq_some : step c program s a = some s'
    ↔ Allowed c s a ∧ after program s a = s' := by
  unfold step
  split
  case isTrue h =>
    rw [Option.some_inj]
    exact (and_iff_right h).symm
  case isFalse h =>
    exact iff_of_false (fun heq => nomatch heq) fun ⟨h', _⟩ => h h'

theorem step_of_allowed (h : Allowed c s a) :
    step c program s a = some (after program s a) :=
  step_eq_some.2 ⟨h, rfl⟩

theorem run_cons {as : List Action} :
    run c program s (a :: as) = some s'
      ↔ ∃ next, step c program s a = some next
        ∧ run c program next as = some s' := by
  show (step c program s a).bind _ = _ ↔ _
  rw [Option.bind_eq_some_iff]

theorem bytesRead_proceed (p : Process) (r : Reply) :
    (p.proceed program r).bytesRead = p.bytesRead ++ r.bytes := by
  unfold Process.bytesRead Process.proceed
  rw [List.flatMap_append, List.flatMap_singleton]

theorem mem_replies_proceed {p : Process} {r : Reply} (hr : r ≠ .endOfInput) :
    .endOfInput ∈ (p.proceed program r).replies ↔ .endOfInput ∈ p.replies := by
  show Reply.endOfInput ∈ p.replies ++ [r] ↔ _
  rw [List.mem_append, List.mem_singleton]
  exact or_iff_left (Ne.symm hr)

-- ================================================================= feeding

theorem fed_start (program : Program) (text : String) :
    Fed (Text.Utf8.write text) (.start program text) where
  feeding _ := rfl
  sent := List.nil_prefix
  whole h := absurd rfl h
  seen h := nomatch h
  unfailed _ h := nomatch h
  writer := ⟨fun _ => rfl, fun _ => rfl⟩
  gone h := absurd rfl h

/-- A reply brings what was in the pipe to the process, and else keeps all
octets where they are. -/
theorem Fed.reply {r : Reply} {pipe : Pipe} (h : Fed text s)
    (hr : r ≠ .endOfInput) (hbytes : r.bytes ++ pipe.held = s.input.held)
    (hwriter : pipe.hasWriter = s.input.hasWriter)
    (hreader : pipe.hasReader = true → s.input.hasReader = true) :
    Fed text (State.reply program { s with input := pipe } r) where
  feeding hresult := by
    show (s.process.proceed program r).bytesRead ++ pipe.held ++ _ = _
    rw [bytesRead_proceed, List.append_assoc _ r.bytes, hbytes]
    exact h.feeding hresult
  sent := by
    show (s.process.proceed program r).bytesRead ++ pipe.held <+: _
    rw [bytesRead_proceed, List.append_assoc, hbytes]
    exact h.sent
  whole hresult hopen := by
    show (s.process.proceed program r).bytesRead ++ pipe.held = _
    rw [bytesRead_proceed, List.append_assoc, hbytes]
    exact h.whole hresult (hreader hopen)
  seen hseen := by
    have hread := h.seen ((mem_replies_proceed hr).1 hseen)
    -- all was read before, so there is nothing left to bring
    have hsent := h.sent.length_le
    rw [← hbytes, List.length_append, List.length_append, hread] at hsent
    have hnothing : r.bytes = [] := by
      rw [← List.length_eq_zero_iff]
      omega
    show (s.process.proceed program r).bytesRead = _
    rw [bytesRead_proceed, hnothing, List.append_nil]
    exact hread
  unfailed := h.unfailed
  writer := by
    show pipe.hasWriter = true ↔ _
    rw [hwriter]
    exact h.writer
  gone hended := by
    rw [← Bool.not_eq_true]
    intro hopen
    have hclosed := h.gone hended
    rw [hreader hopen] at hclosed
    cases hclosed

/-- The end of the process leaves all octets where they are. -/
theorem Fed.finish (h : Fed text s) (ending : Ending) :
    Fed text (s.finish ending) where
  feeding := h.feeding
  sent := h.sent
  whole _ hopen := nomatch hopen
  seen := h.seen
  unfailed := h.unfailed
  writer := h.writer
  gone _ := rfl

/-- Octets that are fed are in the input. -/
theorem Fed.feed {count : Nat} (h : Fed text s)
    (hresult : s.feeder.result = none) :
    Fed text (after program s (.feed (.ok count))) := by
  have hmoved : s.process.bytesRead
      ++ (s.input.held ++ s.feeder.rest.take count)
      ++ s.feeder.rest.drop count = text := by
    rw [← List.append_assoc, List.append_assoc, List.take_append_drop]
    exact h.feeding hresult
  exact {
    feeding := fun _ => hmoved
    sent := ⟨_, hmoved⟩
    whole := fun hdone => absurd hresult hdone
    seen := h.seen
    unfailed := h.unfailed
    writer := h.writer
    gone := h.gone }

/-- The feeder is done when all is fed, or the process reads no more. -/
theorem Fed.closeFeed (h : Fed text s) (program : Program)
    (hresult : s.feeder.result = none)
    (hrest : s.input.hasReader = true → s.feeder.rest = []) :
    Fed text (after program s .closeFeed) where
  feeding := nofun
  sent := h.sent
  whole _ hopen := by
    have hall := h.feeding hresult
    rw [hrest hopen, List.append_nil] at hall
    exact hall
  seen := h.seen
  unfailed _ hr := (Option.some.inj hr).symm
  writer := ⟨nofun, nofun⟩
  gone := h.gone

/-- The end of the input is seen when all was read. -/
theorem Fed.readEnd (h : Fed text s) (hreader : s.input.hasReader = true)
    (hheld : s.input.held = []) (hwriter : s.input.hasWriter = false) :
    Fed text (s.reply program .endOfInput) := by
  have hresult : s.feeder.result ≠ none := by
    intro hnone
    rw [h.writer.2 hnone] at hwriter
    cases hwriter
  have hall := h.whole hresult hreader
  rw [hheld, List.append_nil] at hall
  have hread : (s.process.proceed program .endOfInput).bytesRead = text := by
    rw [bytesRead_proceed]
    exact (List.append_nil _).trans hall
  have hwhole : (s.process.proceed program .endOfInput).bytesRead
      ++ s.input.held = text := by
    rw [hread, hheld, List.append_nil]
  exact {
    feeding := fun hnone => absurd hnone hresult
    sent := ⟨[], (List.append_nil _).trans hwhole⟩
    whole := fun _ _ => hwhole
    seen := fun _ => hread
    unfailed := h.unfailed
    writer := h.writer
    gone := h.gone }

/-- No action loses octets on their way to the process. -/
theorem Fed.after (h : Fed text s) (ha : Allowed c s a) :
    Fed text (after program s a) := by
  cases a with
  | feed answer =>
      obtain ⟨hresult, -, hanswer⟩ := ha
      cases answer with
      | ok count => exact h.feed hresult
      | error fault =>
          cases fault with
          | other text => exact absurd hanswer id
          | brokenPipe =>
              refine h.closeFeed program hresult fun hopen => ?_
              rw [show s.input.hasReader = false from hanswer] at hopen
              cases hopen
  | closeFeed =>
      obtain ⟨hresult, hrest⟩ := ha
      exact h.closeFeed program hresult fun _ => hrest
  | read count =>
      exact h.reply nofun (List.take_append_drop count _) rfl id
  | readEnd =>
      obtain ⟨-, -, hreader, hheld, hwriter⟩ := ha
      exact h.readEnd hreader hheld hwriter
  | readRefused => exact h.reply nofun rfl rfl id
  | wrote side => exact h.reply nofun rfl rfl id
  | closeInput => exact h.reply nofun rfl rfl nofun
  | exit ending => exact h.finish _
  | kill => exact h.finish _
  | drain | endDrain | wait | write =>
      exact ⟨h.feeding, h.sent, h.whole, h.seen, h.unfailed, h.writer, h.gone⟩

-- ================================================================ draining

theorem drained_start (program : Program) (text : String) :
    Drained (.start program text) where
  kept _ := rfl
  atEnd _ h := nomatch h
  writer _ := ⟨fun _ => rfl, fun _ => rfl⟩
  status _ h := nomatch h

/-- One stream changed, with all its octets accounted for. -/
theorem Drained.onSide {drain : Drain} {pipe : Pipe} {process : Process}
    (h : Drained s)
    (hkept : drain.taken ++ pipe.held = process.written side)
    (helse : ∀ t, t ≠ side → process.written t = s.process.written t)
    (hending : process.ending = s.process.ending)
    (hend : drain.atEnd = true → s.process.ending ≠ none ∧ pipe.held = [])
    (hwriter : pipe.hasWriter = (s.outlet side).hasWriter) :
    Drained (State.onSide { s with process := process } side drain pipe) where
  kept t := by
    show (if t = side then drain else s.drain t).taken
      ++ (if t = side then pipe else s.outlet t).held = process.written t
    by_cases ht : t = side
    · rw [if_pos ht, if_pos ht, ht]
      exact hkept
    · rw [if_neg ht, if_neg ht, helse t ht]
      exact h.kept t
  atEnd t := by
    show (if t = side then drain else s.drain t).atEnd = true →
      process.ending ≠ none ∧ (if t = side then pipe else s.outlet t).held = []
    rw [hending]
    by_cases ht : t = side
    · rw [if_pos ht, if_pos ht]
      exact hend
    · rw [if_neg ht, if_neg ht]
      exact h.atEnd t
  writer t := by
    show (if t = side then pipe else s.outlet t).hasWriter = true
      ↔ process.ending = none
    rw [hending]
    by_cases ht : t = side
    · rw [if_pos ht, hwriter, ← ht]
      exact h.writer t
    · rw [if_neg ht]
      exact h.writer t
  status ending hstatus := hending.trans (h.status ending hstatus)

/-- The end of the process leaves its octets where they are. -/
theorem Drained.finish (h : Drained s) (hrunning : s.process.ending = none)
    (ending : Ending) : Drained (s.finish ending) where
  kept := h.kept
  atEnd side hend := absurd hrunning (h.atEnd side hend).1
  writer _ := ⟨nofun, nofun⟩
  status ending' hstatus := by
    have hended := h.status ending' hstatus
    rw [hrunning] at hended
    cases hended

/-- No action loses octets on their way from the process. -/
theorem Drained.after (h : Drained s) (ha : Allowed c s a) :
    Drained (after program s a) := by
  cases a with
  | drain side count =>
      obtain ⟨hend, -, -⟩ := ha
      refine h.onSide ?_ (fun _ _ => rfl) rfl ?_ rfl
      · show _ ++ _ ++ (s.outlet side).held.drop count = _
        rw [List.append_assoc, List.take_append_drop]
        exact h.kept side
      · intro hend'
        rw [show (s.drain side).atEnd = true from hend'] at hend
        cases hend
  | endDrain side =>
      obtain ⟨-, hheld, hwriter⟩ := ha
      refine h.onSide (h.kept side) (fun _ _ => rfl) rfl
        (fun _ => ⟨?_, hheld⟩) rfl
      intro hrunning
      rw [(h.writer side).2 hrunning] at hwriter
      cases hwriter
  | write side count =>
      obtain ⟨hrunning, -⟩ := ha
      refine h.onSide ?_ ?_ rfl ?_ rfl
      · show _ ++ (_ ++ _) = if side = side then _ else _
        rw [if_pos rfl, ← List.append_assoc, h.kept side]
      · intro t ht
        exact if_neg ht
      · intro hend
        exact absurd hrunning (h.atEnd side hend).1
  | wait =>
      obtain ⟨-, hended⟩ := ha
      exact ⟨h.kept, h.atEnd, h.writer, fun _ hstatus => hstatus⟩
  | exit ending => exact h.finish ha.1 _
  | kill => exact h.finish ha _
  | feed answer =>
      cases answer with
      | ok count => exact ⟨h.kept, h.atEnd, h.writer, h.status⟩
      | error fault => exact ⟨h.kept, h.atEnd, h.writer, h.status⟩
  | closeFeed | read | readEnd | readRefused | wrote | closeInput =>
      exact ⟨h.kept, h.atEnd, h.writer, h.status⟩

-- ==================================================================== runs

/-- What each action of a run preserves holds after it. -/
theorem run_preserves {P : State → Prop} {as : List Action}
    (hstep : ∀ {s a}, a ∈ as → Allowed c s a → P s → P (after program s a))
    (hrun : run c program s as = some s') (h : P s) : P s' := by
  induction as generalizing s with
  | nil =>
      cases hrun
      exact h
  | cons a as ih =>
      obtain ⟨next, hnext, hrest⟩ := run_cons.1 hrun
      obtain ⟨ha, rfl⟩ := step_eq_some.1 hnext
      exact ih (fun hmem => hstep (List.mem_cons_of_mem a hmem)) hrest
        (hstep List.mem_cons_self ha h)

theorem fed_of_run {input : String} {as : List Action}
    (h : run c program (.start program input) as = some s) :
    Fed (Text.Utf8.write input) s :=
  run_preserves (fun _ ha hfed => hfed.after ha) h (fed_start program input)

theorem drained_of_run {input : String} {as : List Action}
    (h : run c program (.start program input) as = some s) : Drained s :=
  run_preserves (fun _ ha hdrained => hdrained.after ha) h
    (drained_start program input)

/-- When the feeder and the drain are done, they have the outcome of the
process: how it has ended, and all that it wrote. -/
theorem result?_eq_some {r : Except WriteFault Outcome}
    (hdrained : Drained s) (hfed : Fed text s) (h : s.result? = some r) :
    ∃ ending, s.process.ending = some ending
      ∧ r = .ok (.of ending (s.process.written .output)
        (s.process.written .errors)) := by
  unfold State.result? at h
  obtain ⟨fed, hresult, h⟩ := Option.bind_eq_some_iff.1 h
  obtain ⟨ending, hstatus, h⟩ := Option.bind_eq_some_iff.1 h
  split at h
  case isFalse => cases h
  case isTrue hend =>
    rw [Bool.and_eq_true] at hend
    have hall : ∀ side, (s.drain side).atEnd = true →
        (s.drain side).taken = s.process.written side := by
      intro side hside
      rw [← hdrained.kept side, (hdrained.atEnd side hside).2,
        List.append_nil]
    rw [hfed.unfailed fed hresult, hall .output hend.1,
      hall .errors hend.2] at h
    exact ⟨ending, hdrained.status ending hstatus, (Option.some.inj h).symm⟩

end ApiContract.Shell.Piping
