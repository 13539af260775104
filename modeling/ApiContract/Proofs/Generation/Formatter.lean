/-
Code that is piped through a formatter's process, whatever the process does,
however little the pipes hold, and in whatever order things happen. It cannot
get stuck, for where the process waits the feeder or the drain can act; it
loses nothing on the way in or out; and it comes to the exit code of the
process, be it one that has closed its input or left it unread. The formatter
keeps the output then if that code is zero, and else fails with it.
-/
import ApiContract.Generation.Formatter
import ApiContract.Proofs.Shell.Progress

namespace ApiContract

open Shell (Ending Outcome)
open Shell.Piping

-- ================================================== statement vocabulary

/-- What a formatter makes of the end of its process and of what that wrote:
the output as it is, or an error, with a notice, that has the exit code and
the trimmed text of the other stream. -/
inductive Formatter.Concluded (command : String) (ending : Ending)
    (output errors : String) : Logged FormatError String → Prop where
  | kept (success : ending = .exited 0) :
      Concluded command ending output errors ⟨[], .ok output⟩
  | refused {e : FormatError} (failure : ending ≠ .exited 0)
      (message : e.message = "'" ++ command ++ "' exited with code "
        ++ toString ending.code ++ ": " ++ Text.trim errors) :
      Concluded command ending output errors
        ⟨[.formatterFailed command ending.code errors], .error e⟩

namespace Shell.Piping

/-- What holds of the parties after some actions. -/
structure Sound (c : Capacities) (program : Program) (input : String)
    (as : List Action) (s : State) : Prop where
  /-- While the process waits, the feeder or the drain can act. -/
  unblocked : Blocked c s →
    ∃ a s', a.isOurs = true ∧ step c program s a = some s'
  /-- While it neither waits nor has ended, it can act itself. -/
  running : s.process.ending = none → ¬ Blocked c s →
    ∃ a s', a.isOurs = false ∧ a ≠ .kill ∧ step c program s a = some s'
  /-- When it has ended, the feeder or the drain can act until they are
  done. -/
  ended : s.process.ending ≠ none → s.result? = none →
    ∃ a s', a.isOurs = true ∧ step c program s a = some s'
  /-- They have not acted more often than there was something to do. -/
  bounded : (as.filter Action.isOurs).length
    ≤ (Text.Utf8.write input).length + s.process.writtenLength + 4
  /-- The process has read the text from its beginning. -/
  read : s.process.bytesRead <+: Text.Utf8.write input
  /-- It sees the end of its input behind all of the text. -/
  readAll : .endOfInput ∈ s.process.replies →
    s.process.bytesRead = Text.Utf8.write input
  /-- There is no failure, but the end of the process and all it wrote. -/
  result : ∀ r, s.result? = some r → ∃ ending, s.process.ending = some ending
    ∧ r = .ok ⟨ending.code, Text.Utf8.readLenient (s.process.written .output),
      Text.Utf8.readLenient (s.process.written .errors)⟩

/-- The parties are sound after every run. -/
theorem sound_of_run {c : Capacities} {program : Program} {input : String}
    {as : List Action} {s : State}
    (h : run c program (.start program input) as = some s) :
    Sound c program input as s := by
  have hfed := fed_of_run h
  have hdrained := drained_of_run h
  refine ⟨?_, ?_, ?_, ?_, ?_, hfed.seen, ?_⟩
  · intro hblocked
    obtain ⟨a, hours, ha⟩ := exists_ours_of_blocked hfed hdrained hblocked
    exact ⟨a, _, hours, step_of_allowed ha⟩
  · intro hrunning hfree
    obtain ⟨a, hown, hkill, ha⟩ := exists_own_of_running hrunning hfree
    exact ⟨a, _, hown, hkill, step_of_allowed ha⟩
  · intro hended hresult
    obtain ⟨a, hours, ha⟩ :=
      exists_ours_of_ended (c := c) hfed hdrained hended hresult
    exact ⟨a, _, hours, step_of_allowed ha⟩
  · have hbound := ours_le h
    have hstart : (State.start program input).weight
        = (Text.Utf8.write input).length + 4 := rfl
    have hwritten : (State.start program input).process.writtenLength = 0 := rfl
    omega
  · exact (List.prefix_append _ _).trans hfed.sent
  · intro r hr
    exact result?_eq_some hdrained hfed hr

end Shell.Piping

namespace Formatter

/-- A formatter keeps the output of a process that has ended with zero, and
fails with any other end. -/
theorem concluded_conclude (command : String) (ending : Ending)
    (output errors : String) : Concluded command ending output errors
      (conclude command ⟨ending.code, output, errors⟩) := by
  unfold conclude
  cases hsuccess : Outcome.isSuccess ⟨ending.code, output, errors⟩ with
  | true =>
      have hcode : ending.code = 0 := eq_of_beq hsuccess
      refine .kept ?_
      cases ending with
      | exited code =>
          rw [show code = 0 from Int.ofNat.inj hcode]
      | killed => cases hcode
  | false =>
      refine .refused ?_ rfl
      rintro rfl
      cases hsuccess

-- ============================================================== statement

/-- Code piped through a process gets through, and comes back as what the
process makes of it. -/
theorem command_piped (command code : String) (c : Capacities)
    (program : Program) (as : List Action) (s : State)
    (h : run c program (.start program code) as = some s) :
    Sound c program code as s
      ∧ ∀ r, s.result? = some r → ∃ ending outcome,
        s.process.ending = some ending ∧ r = .ok outcome
          ∧ Concluded command ending
            (Text.Utf8.readLenient (s.process.written .output))
            (Text.Utf8.readLenient (s.process.written .errors))
            (conclude command outcome) := by
  have hsound := sound_of_run h
  refine ⟨hsound, ?_⟩
  intro r hr
  obtain ⟨ending, hending, hresult⟩ := hsound.result r hr
  exact ⟨ending, _, hending, hresult, concluded_conclude command ending _ _⟩

/-- A process that writes before it reads, to a pipe of one octet, and ends
without having read all: it waits for the drain twice, and the feeder finds
the pipe broken. -/
theorem command_piped_unread :
    let c : Capacities := ⟨2, fun _ => 1, by decide, fun _ => by decide⟩
    let program : Program := fun replies =>
      match replies.length with
      | 0 => .write .output [0x6F, 0x6B]
      | 1 => .read
      | 2 => .closeInput
      | 3 => .write .errors [0x3F, 0x0A]
      | _ => .exit (.exited 3)
    let as : List Action :=
      [.feed (.ok 2), .write .output 1, .drain .output 1, .write .output 1,
        .wrote .output, .read 1, .closeInput, .feed (.error .brokenPipe),
        .write .errors 1, .drain .errors 1, .write .errors 1, .wrote .errors,
        .exit (.exited 3), .wait, .drain .output 1, .drain .errors 1,
        .endDrain .errors, .endDrain .output]
    ∃ s, run c program (.start program "type") as = some s
      ∧ Sound c program "type" as s
      ∧ s.process.bytesRead = Text.Utf8.write "t"
      ∧ s.result? = some (.ok ⟨3, "ok", "?\n"⟩)
      ∧ ∃ e, conclude "fmt" ⟨3, "ok", "?\n"⟩
          = ⟨[.formatterFailed "fmt" 3 "?\n"], .error e⟩
        ∧ e.message = "'fmt' exited with code 3: ?" := by
  intro c program as
  have hrun : (run c program (.start program "type") as).isSome := by
    decide +kernel
  have hread : (run c program (.start program "type") as).map
      (fun s => s.process.bytesRead) = some (Text.Utf8.write "t") := by
    decide +kernel
  have hresult : (run c program (.start program "type") as).bind
      (fun s => s.result?.bind Except.toOption)
        = some ⟨3, "ok", "?\n"⟩ := by
    decide +kernel
  obtain ⟨s, hs⟩ := Option.isSome_iff_exists.1 hrun
  rw [hs] at hread hresult
  change s.result?.bind Except.toOption = _ at hresult
  obtain ⟨r, hr, houtcome⟩ := Option.bind_eq_some_iff.1 hresult
  obtain ⟨hsound, hconcluded⟩ := command_piped "fmt" "type" c program as s hs
  obtain ⟨ending, outcome, -, rfl, -⟩ := hconcluded r hr
  cases houtcome
  refine ⟨s, hs, hsound, Option.some.inj hread, hr, _, rfl, ?_⟩
  decide +kernel

end Formatter

end ApiContract
