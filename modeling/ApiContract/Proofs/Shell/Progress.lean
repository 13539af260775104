/-
Why nobody waits for ever. A process that waits for room finds its pipe full,
so there is something to drain; one that waits for input finds the feeder at
work, and a whole pipe of room for it (`exists_ours_of_blocked`). When the
process has ended, whatever is not done yet can go on: a feeder that waits for
room is told that the pipe is broken, and what is left in the other pipes is
drained (`exists_ours_of_ended`). And a process that does not wait can act
itself (`exists_own_of_running`).

Nor do the feeder and the drain go on for ever by themselves. Each of their
actions moves octets on or closes something, so that less is left for them to
do (`State.weight`), and only what the process writes makes it more. So of the
actions of a run no more are theirs than there are octets fed and written, and
four to close it all (`ours_le`).
-/
import ApiContract.Proofs.Shell.Piping

namespace ApiContract.Shell.Piping

-- ================================================== statement vocabulary

/-- The process waits for room in a full pipe, or for input from an empty pipe
that is open on both sides. -/
inductive Blocked (c : Capacities) (s : State) : Prop where
  | full {side : Side} {content : Bytes} (running : s.process.ending = none)
      (asks : s.process.request = .write side content)
      (unwritten : content ≠ [])
      (noRoom : c.outlet side ≤ (s.outlet side).held.length)
  | empty (running : s.process.ending = none)
      (asks : s.process.request = .read)
      (reader : s.input.hasReader = true) (nothing : s.input.held = [])
      (writer : s.input.hasWriter = true)

/-- How much a process has written. -/
def Process.writtenLength (p : Process) : Nat :=
  (p.written .output).length + (p.written .errors).length

/-- What is left to do for a feeder: what to feed, and to close. -/
def Feeder.weight (f : Feeder) : Nat :=
  f.rest.length + if f.result = none then 1 else 0

/-- What is left to do for a drain with its pipe. -/
def Drain.weight (d : Drain) (p : Pipe) : Nat :=
  p.held.length + if d.atEnd then 0 else 1

/-- What is left to do for the drain: both streams, and to wait. -/
def State.drainWeight (s : State) : Nat :=
  (s.drain .output).weight (s.outlet .output)
    + (s.drain .errors).weight (s.outlet .errors)
    + if s.status = none then 1 else 0

/-- What is left to do for the feeder and the drain together. -/
def State.weight (s : State) : Nat := s.feeder.weight + s.drainWeight

variable {c : Capacities} {program : Program} {text : Bytes} {s s' : State}
  {a : Action} {side : Side}

-- ================================================================ progress

/-- The feeder has something to do until it is done, if the process has closed
its input or there is nothing in it. -/
theorem exists_ours_of_feeding (hresult : s.feeder.result = none)
    (hinput : s.input.hasReader = true → s.input.held = []) :
    ∃ a, a.isOurs = true ∧ Allowed c s a := by
  by_cases hrest : s.feeder.rest = []
  · exact ⟨.closeFeed, rfl, hresult, hrest⟩
  · by_cases hreader : s.input.hasReader = true
    · have hpos := List.length_pos_iff.2 hrest
      refine ⟨.feed (.ok 1), rfl, hresult, hrest, hreader, Nat.one_pos, hpos,
        ?_⟩
      rw [hinput hreader]
      exact c.input_pos
    · rw [Bool.not_eq_true] at hreader
      exact ⟨.feed (.error .brokenPipe), rfl, hresult, hrest, hreader⟩

/-- What a pipe holds can be drained. -/
theorem exists_ours_of_held (hend : (s.drain side).atEnd = false)
    (hheld : (s.outlet side).held ≠ []) :
    ∃ a, a.isOurs = true ∧ Allowed c s a :=
  ⟨.drain side 1, rfl, hend, Nat.one_pos, List.length_pos_iff.2 hheld⟩

/-- While the process waits, the feeder or the drain can act. -/
theorem exists_ours_of_blocked (hfed : Fed text s) (hdrained : Drained s)
    (h : Blocked c s) : ∃ a, a.isOurs = true ∧ Allowed c s a := by
  cases h with
  | @full side content running asks unwritten noRoom =>
      have hend : (s.drain side).atEnd = false := by
        rw [← Bool.not_eq_true]
        intro hend
        exact (hdrained.atEnd side hend).1 running
      refine exists_ours_of_held hend ?_
      intro hnothing
      have hroom := c.outlet_pos side
      rw [hnothing] at noRoom
      exact absurd noRoom (Nat.not_le.2 hroom)
  | empty running asks reader nothing writer =>
      exact exists_ours_of_feeding (hfed.writer.1 writer) fun _ => nothing

/-- When the process has ended the feeder and the drain can act until they are
done. -/
theorem exists_ours_of_ended (hfed : Fed text s) (hdrained : Drained s)
    (hended : s.process.ending ≠ none) (hresult : s.result? = none) :
    ∃ a, a.isOurs = true ∧ Allowed c s a := by
  by_cases hfeeding : s.feeder.result = none
  · refine exists_ours_of_feeding hfeeding fun hreader => ?_
    rw [hfed.gone hended] at hreader
    cases hreader
  by_cases hstatus : s.status = none
  · exact ⟨.wait, rfl, hstatus, hended⟩
  have hside : ∃ side, (s.drain side).atEnd = false := by
    obtain ⟨r, hr⟩ := Option.ne_none_iff_exists'.1 hfeeding
    obtain ⟨ending, hending⟩ := Option.ne_none_iff_exists'.1 hstatus
    unfold State.result? at hresult
    rw [hr, hending] at hresult
    cases hout : (s.drain .output).atEnd with
    | false => exact ⟨.output, hout⟩
    | true =>
        cases herr : (s.drain .errors).atEnd with
        | false => exact ⟨.errors, herr⟩
        | true =>
            rw [hout, herr] at hresult
            cases hresult
  obtain ⟨side, hend⟩ := hside
  by_cases hheld : (s.outlet side).held = []
  · refine ⟨.endDrain side, rfl, hend, hheld, ?_⟩
    rw [← Bool.not_eq_true]
    intro hwriter
    exact hended ((hdrained.writer side).1 hwriter)
  · exact exists_ours_of_held hend hheld

/-- A process that neither has ended nor waits can act, without being killed. -/
theorem exists_own_of_running (hrunning : s.process.ending = none)
    (h : ¬ Blocked c s) :
    ∃ a, a.isOurs = false ∧ a ≠ .kill ∧ Allowed c s a := by
  cases hrequest : s.process.request with
  | closeInput => exact ⟨.closeInput, rfl, nofun, hrunning, hrequest⟩
  | exit ending => exact ⟨.exit ending, rfl, nofun, hrunning, hrequest⟩
  | read =>
      by_cases hreader : s.input.hasReader = true
      · by_cases hheld : s.input.held = []
        · have hwriter : s.input.hasWriter = false := by
            rw [← Bool.not_eq_true]
            intro hwriter
            exact h (.empty hrunning hrequest hreader hheld hwriter)
          exact ⟨.readEnd, rfl, nofun, hrunning, hrequest, hreader, hheld,
            hwriter⟩
        · exact ⟨.read 1, rfl, nofun, hrunning, hrequest, hreader, Nat.one_pos,
            List.length_pos_iff.2 hheld⟩
      · rw [Bool.not_eq_true] at hreader
        exact ⟨.readRefused, rfl, nofun, hrunning, hrequest, hreader⟩
  | write side content =>
      by_cases hcontent : content = []
      · rw [hcontent] at hrequest
        exact ⟨.wrote side, rfl, nofun, hrunning, hrequest⟩
      · have hrest : s.process.request.rest = content := by
          rw [hrequest]
          rfl
        have hroom : (s.outlet side).held.length + 1 ≤ c.outlet side := by
          rw [Nat.succ_le_iff, ← Nat.not_le]
          intro hfull
          exact h (.full hrunning hrequest hcontent hfull)
        refine ⟨.write side 1, rfl, nofun, hrunning, ?_, Nat.one_pos, ?_, hroom⟩
        · rw [hrest]
          exact hrequest
        · rw [hrest]
          exact List.length_pos_iff.2 hcontent

-- ============================================================= termination

/-- What is left to drain changes by what changes on one side. -/
theorem drainWeight_onSide (s : State) (process : Process) (side : Side)
    (drain : Drain) (pipe : Pipe) :
    (State.onSide { s with process := process } side drain pipe).drainWeight
        + (s.drain side).weight (s.outlet side)
      = s.drainWeight + drain.weight pipe := by
  unfold State.drainWeight
  cases side with
  | output =>
      show drain.weight pipe + (s.drain .errors).weight (s.outlet .errors)
        + (if s.status = none then 1 else 0) + _ = _
      omega
  | errors =>
      show (s.drain .output).weight (s.outlet .output) + drain.weight pipe
        + (if s.status = none then 1 else 0) + _ = _
      omega

/-- What is written makes a process longer by as much. -/
theorem writtenLength_write (p : Process) (side : Side) {count : Nat}
    (hcount : count ≤ p.request.rest.length) :
    (p.write side count).writtenLength = p.writtenLength + count := by
  have htake : (p.request.rest.take count).length = count := by
    rw [List.length_take]
    omega
  unfold Process.writtenLength
  cases side with
  | output =>
      show (p.written .output ++ p.request.rest.take count).length
        + (p.written .errors).length = _
      rw [List.length_append, htake]
      omega
  | errors =>
      show (p.written .output).length
        + (p.written .errors ++ p.request.rest.take count).length = _
      rw [List.length_append, htake]
      omega

/-- An answer leaves the feeder with less to do. -/
theorem feederWeight_answered {answer : Except WriteFault Nat}
    (ha : Allowed c s (.feed answer)) :
    (s.feeder.answered answer).weight + 1 ≤ s.feeder.weight := by
  obtain ⟨hresult, -, hanswer⟩ := ha
  unfold Feeder.weight
  cases answer with
  | ok count =>
      obtain ⟨-, hpos, hle, -⟩ := hanswer
      show (s.feeder.rest.drop count).length
        + (if s.feeder.result = none then 1 else 0) + 1 ≤ _
      rw [List.length_drop]
      omega
  | error fault =>
      cases fault with
      | brokenPipe =>
          have hclose : (if s.feeder.result = none then 1 else 0) = 1 :=
            if_pos hresult
          show s.feeder.rest.length + 0 + 1 ≤ _
          omega
      | other text => exact absurd hanswer id

/-- After an action of the feeder or the drain less is left to do. -/
theorem weight_after_of_ours (hours : a.isOurs = true) (ha : Allowed c s a) :
    (after program s a).weight + 1 ≤ s.weight
      ∧ (after program s a).process = s.process := by
  unfold State.weight
  cases a with
  | feed answer =>
      have hfeeder := feederWeight_answered ha
      cases answer with
      | ok count =>
          refine ⟨?_, rfl⟩
          show (s.feeder.answered _).weight + s.drainWeight + 1 ≤ _
          omega
      | error fault =>
          refine ⟨?_, rfl⟩
          show (s.feeder.answered _).weight + s.drainWeight + 1 ≤ _
          omega
  | closeFeed =>
      refine ⟨?_, rfl⟩
      have hclose : (if s.feeder.result = none then 1 else 0) = 1 := if_pos ha.1
      unfold Feeder.weight
      show s.feeder.rest.length + 0 + s.drainWeight + 1 ≤ _
      omega
  | drain side count =>
      obtain ⟨-, hpos, hle⟩ := ha
      refine ⟨?_, rfl⟩
      have hpipe : ((s.outlet side).take count).held.length + count
          = (s.outlet side).held.length := by
        show ((s.outlet side).held.drop count).length + count = _
        rw [List.length_drop]
        omega
      have hside : (after program s (.drain side count)).drainWeight
            + (s.drain side).weight (s.outlet side)
          = s.drainWeight
            + (s.drain side).weight ((s.outlet side).take count) :=
        drainWeight_onSide s s.process side _ _
      unfold Drain.weight at hside
      show s.feeder.weight + (after program s (.drain side count)).drainWeight
        + 1 ≤ _
      omega
  | endDrain side =>
      have hside : (after program s (.endDrain side)).drainWeight
            + (s.drain side).weight (s.outlet side)
          = s.drainWeight + ((s.outlet side).held.length + 0) :=
        drainWeight_onSide s s.process side _ _
      unfold Drain.weight at hside
      rw [if_neg (Bool.eq_false_iff.1 ha.1)] at hside
      refine ⟨?_, rfl⟩
      show s.feeder.weight + (after program s (.endDrain side)).drainWeight
        + 1 ≤ _
      omega
  | wait =>
      obtain ⟨hstatus, hended⟩ := ha
      refine ⟨?_, rfl⟩
      have hwait : (after program s .wait).drainWeight + 1 = s.drainWeight := by
        unfold State.drainWeight
        rw [if_pos hstatus]
        show _ + _ + (if s.process.ending = none then 1 else 0) + 1 = _
        rw [if_neg hended]
        rfl
      show s.feeder.weight + (after program s .wait).drainWeight + 1 ≤ _
      omega
  | _ => cases hours

/-- What the process does leaves more to do by what it writes. -/
theorem weight_after_of_own (hown : a.isOurs = false) (ha : Allowed c s a) :
    (after program s a).weight + s.process.writtenLength
      = s.weight + (after program s a).process.writtenLength := by
  cases a with
  | write side count =>
      obtain ⟨-, -, -, hcount, -⟩ := ha
      have hpipe : ((s.outlet side).put
          (s.process.request.rest.take count)).held.length
          = (s.outlet side).held.length + count := by
        show ((s.outlet side).held ++ _).length = _
        rw [List.length_append, List.length_take]
        omega
      have hside : (after program s (.write side count)).drainWeight
            + (s.drain side).weight (s.outlet side)
          = s.drainWeight + (s.drain side).weight ((s.outlet side).put
            (s.process.request.rest.take count)) :=
        drainWeight_onSide s (s.process.write side count) side _ _
      have hwritten := writtenLength_write s.process side hcount
      unfold Drain.weight at hside
      show s.feeder.weight + (after program s (.write side count)).drainWeight
        + _ = s.feeder.weight + s.drainWeight
          + (s.process.write side count).writtenLength
      omega
  | read | readEnd | readRefused | wrote | closeInput | exit | kill => rfl
  | _ => cases hown

/-- Of the actions of a run no more are the feeder's and the drain's than
there was to do at first, and has come by what the process wrote. -/
theorem ours_le {as : List Action} (h : run c program s as = some s') :
    (as.filter Action.isOurs).length + s'.weight + s.process.writtenLength
      ≤ s.weight + s'.process.writtenLength := by
  induction as generalizing s with
  | nil =>
      cases h
      show 0 + _ + _ ≤ _
      omega
  | cons a as ih =>
      obtain ⟨next, hnext, hrest⟩ := run_cons.1 h
      obtain ⟨ha, rfl⟩ := step_eq_some.1 hnext
      have hbound := ih hrest
      cases hours : a.isOurs with
      | true =>
          obtain ⟨hless, hsame⟩ := @weight_after_of_ours c program s a hours ha
          rw [hsame] at hbound
          rw [List.filter_cons_of_pos hours, List.length_cons]
          omega
      | false =>
          have hmore := @weight_after_of_own c program s a hours ha
          rw [List.filter_cons_of_neg (Bool.eq_false_iff.1 hours)]
          omega

end ApiContract.Shell.Piping
