/-
Why the run of a command line can be a function of its input. A process that
reads all its input before it writes, and writes what it makes of it stream
after stream (`Program.batch`), comes to the same outcome however it is piped:
to what it makes of the whole text (`result?_batch`). A shell whose commands
run one after another, each on the whole output of the one before, comes to
the outcome of such a process (`exists_batch_run`).

How far the process has come is told from what it asks for (`Stage`). That it
has the whole text when it sees the end of its input is what `Fed` says.
-/
import ApiContract.Shell.Run
import ApiContract.Proofs.Shell.Piping

namespace ApiContract.Shell.Piping

-- ================================================== statement vocabulary

/-- What a process makes of its input: what it writes to each stream, and how
it ends. -/
structure Answer where
  written : Side → Bytes
  ending : Ending

/-- The answer with a text for each stream. -/
def Answer.give (ending : Ending) (output errors : Bytes) : Answer where
  written
    | .output => output
    | .errors => errors
  ending

/-- What a process asks for to give an answer, one thing after the other. -/
def Answer.request (answer : Answer) : Nat → Request
  | 0 => .write .output (answer.written .output)
  | 1 => .write .errors (answer.written .errors)
  | _ => .exit answer.ending

/-- A process that reads all its input and gives an answer to it then. -/
def Program.batch (f : Bytes → Answer) : Program := fun replies =>
  if .endOfInput ∈ replies then
    (f (replies.flatMap Reply.bytes)).request (replies.count .done)
  else .read

/-- How far a process has come with an answer. -/
def Stage (answer : Answer) (p : Process) : Prop :=
  match p.ending, p.request with
  | none, .read => .endOfInput ∉ p.replies ∧ p.replies.count .done = 0
      ∧ ∀ side, p.written side = []
  | none, .write .output rest => .endOfInput ∈ p.replies
      ∧ p.replies.count .done = 0
      ∧ p.written .output ++ rest = answer.written .output
      ∧ p.written .errors = []
  | none, .write .errors rest => .endOfInput ∈ p.replies
      ∧ p.replies.count .done = 1
      ∧ p.written .output = answer.written .output
      ∧ p.written .errors ++ rest = answer.written .errors
  | none, .closeInput => False
  | none, .exit ending => ending = answer.ending
      ∧ ∀ side, p.written side = answer.written side
  | some ending, _ => ending = answer.ending
      ∧ ∀ side, p.written side = answer.written side

/-- A process is on its way to answer a text, with its input open. -/
structure Answering (f : Bytes → Answer) (text : Bytes) (s : State) :
    Prop where
  fed : Fed text s
  reader : s.process.ending = none → s.input.hasReader = true
  stage : Stage (f text) s.process

variable {c : Capacities} {f : Bytes → Answer} {text : Bytes}
  {s s' : State} {a : Action} {p : Process}

-- =================================================================== stages

section Stages

variable {answer : Answer} {rest : Bytes} {ending : Ending}
  (hrunning : p.ending = none)

include hrunning

theorem stage_of_read (hasks : p.request = .read) :
    Stage answer p ↔ .endOfInput ∉ p.replies ∧ p.replies.count .done = 0
      ∧ ∀ side, p.written side = [] := by
  unfold Stage
  rw [hrunning, hasks]

theorem stage_of_output (hasks : p.request = .write .output rest) :
    Stage answer p ↔ .endOfInput ∈ p.replies ∧ p.replies.count .done = 0
      ∧ p.written .output ++ rest = answer.written .output
      ∧ p.written .errors = [] := by
  unfold Stage
  rw [hrunning, hasks]

theorem stage_of_errors (hasks : p.request = .write .errors rest) :
    Stage answer p ↔ .endOfInput ∈ p.replies ∧ p.replies.count .done = 1
      ∧ p.written .output = answer.written .output
      ∧ p.written .errors ++ rest = answer.written .errors := by
  unfold Stage
  rw [hrunning, hasks]

theorem stage_of_exit (hasks : p.request = .exit ending) :
    Stage answer p ↔ ending = answer.ending
      ∧ ∀ side, p.written side = answer.written side := by
  unfold Stage
  rw [hrunning, hasks]

omit hrunning

theorem stage_of_ended (hended : p.ending = some ending) :
    Stage answer p ↔ ending = answer.ending
      ∧ ∀ side, p.written side = answer.written side := by
  unfold Stage
  rw [hended]

end Stages

/-- What the process asks for once it has seen the end of its input. -/
theorem batch_of_seen {replies : List Reply} {count : Nat}
    (hseen : .endOfInput ∈ replies)
    (htext : replies.flatMap Reply.bytes = text)
    (hcount : replies.count .done = count) :
    Program.batch f replies = (f text).request count := by
  unfold Program.batch
  rw [if_pos hseen, htext, hcount]

/-- What was read is not the end. -/
theorem Stage.read {bytes : Bytes} (h : Stage (f text) p)
    (hrunning : p.ending = none) (hasks : p.request = .read) :
    Stage (f text) (p.proceed (.batch f) (.content bytes)) := by
  obtain ⟨hunseen, hcount, hwritten⟩ := (stage_of_read hrunning hasks).1 h
  have hunseen' : .endOfInput ∉ p.replies ++ [.content bytes] := by
    rw [List.mem_append, List.mem_singleton]
    exact not_or.2 ⟨hunseen, nofun⟩
  have hcount' : (p.replies ++ [Reply.content bytes]).count .done = 0 := by
    rw [List.count_append, hcount]
    rfl
  have hasks' : (p.proceed (.batch f) (.content bytes)).request = .read :=
    if_neg hunseen'
  exact (stage_of_read (p := p.proceed _ _) hrunning hasks').2
    ⟨hunseen', hcount', hwritten⟩

/-- At the end it has the whole text, and begins to write. -/
theorem Stage.readEnd (h : Stage (f text) p) (hrunning : p.ending = none)
    (hasks : p.request = .read)
    (htext : (p.proceed (.batch f) .endOfInput).bytesRead = text) :
    Stage (f text) (p.proceed (.batch f) .endOfInput) := by
  obtain ⟨-, hcount, hwritten⟩ := (stage_of_read hrunning hasks).1 h
  have hseen : Reply.endOfInput ∈ p.replies ++ [.endOfInput] :=
    List.mem_append_right _ (List.mem_singleton_self _)
  have hcount' : (p.replies ++ [Reply.endOfInput]).count .done = 0 := by
    rw [List.count_append, hcount]
    rfl
  have hasks' : (p.proceed (.batch f) .endOfInput).request
      = .write .output ((f text).written .output) :=
    batch_of_seen hseen htext hcount'
  refine (stage_of_output (p := p.proceed _ _) hrunning hasks').2
    ⟨hseen, hcount', ?_, hwritten .errors⟩
  show p.written .output ++ _ = _
  rw [hwritten .output, List.nil_append]

/-- What is written is no longer to write. -/
theorem Stage.write {side : Side} {rest : Bytes} (count : Nat)
    (h : Stage (f text) p) (hrunning : p.ending = none)
    (hasks : p.request = .write side rest) :
    Stage (f text) (p.write side count) := by
  have hrest : p.request.rest = rest := by
    rw [hasks]
    rfl
  cases side with
  | output =>
      obtain ⟨hseen, hcount, hout, herr⟩ :=
        (stage_of_output hrunning hasks).1 h
      refine (stage_of_output (p := p.write _ _) hrunning rfl).2
        ⟨hseen, hcount, ?_, herr⟩
      show p.written .output ++ _ ++ _ = _
      rw [List.append_assoc, List.take_append_drop, hrest]
      exact hout
  | errors =>
      obtain ⟨hseen, hcount, hout, herr⟩ :=
        (stage_of_errors hrunning hasks).1 h
      refine (stage_of_errors (p := p.write _ _) hrunning rfl).2
        ⟨hseen, hcount, hout, ?_⟩
      show p.written .errors ++ _ ++ _ = _
      rw [List.append_assoc, List.take_append_drop, hrest]
      exact herr

/-- Behind the one stream comes the other, and behind that the end. -/
theorem Stage.wrote {side : Side} (h : Stage (f text) p)
    (hrunning : p.ending = none) (hasks : p.request = .write side [])
    (htext : .endOfInput ∈ p.replies → p.bytesRead = text) :
    Stage (f text) (p.proceed (.batch f) .done) := by
  have hseen' : Reply.endOfInput ∈ p.replies →
      .endOfInput ∈ p.replies ++ [.done] := List.mem_append_left _
  have htext' : .endOfInput ∈ p.replies →
      (p.proceed (.batch f) .done).bytesRead = text := by
    intro hseen
    rw [bytesRead_proceed, htext hseen]
    exact List.append_nil text
  have hcount' : (p.replies ++ [Reply.done]).count .done
      = p.replies.count .done + 1 := by
    rw [List.count_append]
    rfl
  cases side with
  | output =>
      obtain ⟨hseen, hcount, hout, herr⟩ :=
        (stage_of_output hrunning hasks).1 h
      rw [hcount] at hcount'
      rw [List.append_nil] at hout
      have hasks' : (p.proceed (.batch f) .done).request
          = .write .errors ((f text).written .errors) :=
        batch_of_seen (hseen' hseen) (htext' hseen) hcount'
      refine (stage_of_errors (p := p.proceed _ _) hrunning hasks').2
        ⟨hseen' hseen, hcount', hout, ?_⟩
      show p.written .errors ++ _ = _
      rw [herr, List.nil_append]
  | errors =>
      obtain ⟨hseen, hcount, hout, herr⟩ :=
        (stage_of_errors hrunning hasks).1 h
      rw [hcount] at hcount'
      rw [List.append_nil] at herr
      have hasks' : (p.proceed (.batch f) .done).request
          = .exit (f text).ending :=
        batch_of_seen (hseen' hseen) (htext' hseen) hcount'
      refine (stage_of_exit (p := p.proceed _ _) hrunning hasks').2 ⟨rfl, ?_⟩
      intro side
      cases side with
      | output => exact hout
      | errors => exact herr

-- ==================================================================== runs

theorem answering_start (f : Bytes → Answer) (input : String) :
    Answering f (Text.Utf8.write input) (.start (.batch f) input) where
  fed := fed_start (.batch f) input
  reader _ := rfl
  stage := (stage_of_read rfl rfl).2 ⟨List.not_mem_nil, rfl, fun _ => rfl⟩

/-- A process that is not killed stays on its way. -/
theorem Answering.after (h : Answering f text s) (ha : Allowed c s a)
    (hkill : a ≠ .kill) :
    Answering f text (after (.batch f) s a) := by
  have hfed := @Fed.after c (.batch f) text s a h.fed ha
  have hstage := h.stage
  cases a with
  | read count =>
      exact ⟨hfed, h.reader, hstage.read ha.1 ha.2.1⟩
  | readEnd =>
      refine ⟨hfed, h.reader, hstage.readEnd ha.1 ha.2.1 (hfed.seen ?_)⟩
      exact List.mem_append_right _ (List.mem_singleton_self _)
  | readRefused =>
      obtain ⟨hrunning, -, hclosed⟩ := ha
      rw [h.reader hrunning] at hclosed
      cases hclosed
  | write side count =>
      exact ⟨hfed, h.reader, hstage.write count ha.1 ha.2.1⟩
  | wrote side =>
      exact ⟨hfed, h.reader, hstage.wrote ha.1 ha.2 h.fed.seen⟩
  | closeInput =>
      unfold Stage at hstage
      rw [ha.1, ha.2] at hstage
      exact absurd hstage id
  | exit ending =>
      refine ⟨hfed, nofun, (stage_of_ended rfl).2 ?_⟩
      exact (stage_of_exit ha.1 ha.2).1 hstage
  | kill => exact absurd rfl hkill
  | feed answer =>
      cases answer with
      | ok count => exact ⟨hfed, h.reader, hstage⟩
      | error fault => exact ⟨hfed, h.reader, hstage⟩
  | closeFeed | drain | endDrain | wait => exact ⟨hfed, h.reader, hstage⟩

/-- However it is piped, a process that answers its whole input, and is not
killed, comes to the answer to the text. -/
theorem result?_batch {input : String} {as : List Action}
    {r : Except WriteFault Outcome}
    (h : run c (.batch f) (.start (.batch f) input) as = some s)
    (hkill : .kill ∉ as) (hr : s.result? = some r) :
    r = .ok (.of (f (Text.Utf8.write input)).ending
      ((f (Text.Utf8.write input)).written .output)
      ((f (Text.Utf8.write input)).written .errors)) := by
  have hanswering : Answering f (Text.Utf8.write input) s := by
    refine run_preserves ?_ h (answering_start f input)
    intro s a hmem ha hs
    exact hs.after ha fun heq => hkill (heq ▸ hmem)
  obtain ⟨ending, hended, rfl⟩ :=
    result?_eq_some (drained_of_run h) (fed_of_run h) hr
  obtain ⟨hending, hwritten⟩ := (stage_of_ended hended).1 hanswering.stage
  rw [hending, hwritten .output, hwritten .errors]

/-- The shell comes to what a process writes and how it ends. -/
theorem exists_answer (directory commandLine input : String)
    (fs : FileSystem) : ∃ answer : Answer,
      ((Shell.run directory commandLine input).run fs).2
        = .of answer.ending (answer.written .output)
          (answer.written .errors) := by
  have hanswer : ∀ (ending : Ending) (output errors : Bytes),
      ∃ answer : Answer, Outcome.of ending output errors
        = .of answer.ending (answer.written .output)
          (answer.written .errors) := by
    intro ending output errors
    exact ⟨.give ending output errors, rfl⟩
  unfold Shell.run
  dsimp only
  split
  · exact hanswer _ _ _
  · rw [Access.run_andThen]
    exact hanswer _ _ _

/-- A shell that has the whole input at once, and all that it writes at the
end, comes to what a process comes to that is piped, in whatever order the
parties act. -/
theorem exists_batch_run (directory commandLine input : String)
    (fs : FileSystem) : ∃ answer : Answer,
      ∀ (c : Capacities) (as : List Action) (s : State)
        (r : Except WriteFault Outcome),
        run c (.batch fun _ => answer)
            (.start (.batch fun _ => answer) input) as = some s →
          .kill ∉ as → s.result? = some r →
            r = .ok ((Shell.run directory commandLine input).run fs).2 := by
  obtain ⟨answer, hanswer⟩ := exists_answer directory commandLine input fs
  refine ⟨answer, ?_⟩
  intro c as s r h hkill hr
  rw [hanswer]
  exact result?_batch h hkill hr

end ApiContract.Shell.Piping
