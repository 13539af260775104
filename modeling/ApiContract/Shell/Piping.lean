/-
A text piped through a process. Three parties act, in any order: a feeder
writes the octets of the text to the input of the process and closes it then,
a drain reads what the process writes to either of its streams until that is
closed and waits for the process to end, and the process itself does what its
program says. Between them are pipes that hold a bounded number of octets.

The feeder and the drain act on their own, or what the process writes would
fill a pipe while the feeder still waits for it to read.

What can happen is told by `Allowed`, and what comes of it by `after`.
-/
import ApiContract.Shell.Outcome

namespace ApiContract.Shell.Piping

/-- A stream that a process writes. -/
inductive Side where
  | output
  | errors
  deriving DecidableEq, Repr

-- ============================================================ the process

/-- What a process asks the system for. A process may also send itself a
signal that ends it. -/
inductive Request where
  | read
  | write (side : Side) (content : Bytes)
  | closeInput
  | exit (ending : Ending)
  deriving DecidableEq, Repr

/-- What the system replies. A process that reads the input it has closed is
refused. -/
inductive Reply where
  | content (bytes : Bytes)
  | endOfInput
  | refused
  | done
  deriving DecidableEq, Repr

/-- The octets that come with a reply. -/
def Reply.bytes : Reply → Bytes
  | content bytes => bytes
  | _ => []

/-- A program: what a process asks for next, after the replies so far. -/
abbrev Program := List Reply → Request

/-- What is left to write of what a process asks for. -/
def Request.rest : Request → Bytes
  | write _ content => content
  | _ => []

/-- A process with the replies it has had, what it asks for now, what it has
written to each stream, and how it has ended, if it has. -/
structure Process where
  replies : List Reply
  request : Request
  written : Side → Bytes
  ending : Option Ending

namespace Process

/-- A process that runs a program. -/
def start (program : Program) : Process := ⟨[], program [], fun _ => [], none⟩

/-- The octets that a process has read. -/
def bytesRead (p : Process) : Bytes := p.replies.flatMap Reply.bytes

/-- The process goes on with a reply. -/
def proceed (program : Program) (p : Process) (reply : Reply) : Process :=
  { p with
    replies := p.replies ++ [reply]
    request := program (p.replies ++ [reply]) }

/-- A number of octets of what the process asks to write are written. -/
def write (p : Process) (side : Side) (count : Nat) : Process :=
  { p with
    request := .write side (p.request.rest.drop count)
    written := fun s =>
      if s = side then p.written s ++ p.request.rest.take count
      else p.written s }

end Process

-- ================================================================== pipes

/-- A pipe: the octets in it, and which of its ends are open. -/
structure Pipe where
  held : Bytes := []
  hasWriter : Bool := true
  hasReader : Bool := true

namespace Pipe

/-- Octets put in. -/
def put (p : Pipe) (bytes : Bytes) : Pipe := { p with held := p.held ++ bytes }

/-- A number of octets taken out. -/
def take (p : Pipe) (count : Nat) : Pipe :=
  { p with held := p.held.drop count }

/-- The writing end closed. -/
def closeWriter (p : Pipe) : Pipe := { p with hasWriter := false }

/-- The reading end closed. -/
def closeReader (p : Pipe) : Pipe := { p with hasReader := false }

end Pipe

/-- How many octets each pipe holds at most. -/
structure Capacities where
  input : Nat
  outlet : Side → Nat
  input_pos : 0 < input
  outlet_pos : ∀ side, 0 < outlet side

/-- Why octets cannot be written. -/
inductive WriteFault where
  | brokenPipe
  | other (text : String)
  deriving DecidableEq, Repr

/-- The answers that the system may give when octets are written to a pipe:
it takes some of them as far as there is room, and refuses them when nobody
reads. No other fault arises. -/
def Pipe.MayAnswer (p : Pipe) (capacity offered : Nat) :
    Except WriteFault Nat → Prop
  | .ok count => p.hasReader = true ∧ 0 < count ∧ count ≤ offered
      ∧ p.held.length + count ≤ capacity
  | .error .brokenPipe => p.hasReader = false
  | .error (.other _) => False

-- ============================================================== two sides

/-- The feeder: what is left to write, and what has come of it. -/
structure Feeder where
  rest : Bytes
  result : Option (Except WriteFault Unit) := none

/-- The feeder goes on with an answer. A broken pipe ends it without a
failure: a process that ends without reading all has an exit code. -/
def Feeder.answered (f : Feeder) : Except WriteFault Nat → Feeder
  | .ok count => { f with rest := f.rest.drop count }
  | .error .brokenPipe => { f with result := some (.ok ()) }
  | .error fault => { f with result := some (.error fault) }

/-- What the drain has read of a stream, and whether it has seen its end. -/
structure Drain where
  taken : Bytes := []
  atEnd : Bool := false

-- ================================================================= states

/-- Where the three parties are, and the pipes between them. -/
structure State where
  input : Pipe
  outlet : Side → Pipe
  feeder : Feeder
  drain : Side → Drain
  status : Option Ending
  process : Process

/-- The parties at first. -/
def State.start (program : Program) (text : String) : State where
  input := {}
  outlet := fun _ => {}
  feeder := { rest := Text.Utf8.write text }
  drain := fun _ => {}
  status := none
  process := .start program

/-- What the parties come to together, when the feeder and the drain are done:
the failure of the feeder, or the outcome of the process. -/
def State.result? (s : State) : Option (Except WriteFault Outcome) := do
  let fed ← s.feeder.result
  let ending ← s.status
  if (s.drain .output).atEnd && (s.drain .errors).atEnd then
    return fed.map fun _ =>
      .of ending (s.drain .output).taken (s.drain .errors).taken
  else none

-- ================================================================ actions

/-- What may happen next: to the feeder, the drain or the process. A process
may also be killed by another one. -/
inductive Action where
  | feed (answer : Except WriteFault Nat)
  | closeFeed
  | drain (side : Side) (count : Nat)
  | endDrain (side : Side)
  | wait
  | read (count : Nat)
  | readEnd
  | readRefused
  | write (side : Side) (count : Nat)
  | wrote (side : Side)
  | closeInput
  | exit (ending : Ending)
  | kill

/-- The feeder or the drain acts. -/
def Action.isOurs : Action → Bool
  | .feed _ | .closeFeed | .drain _ _ | .endDrain _ | .wait => true
  | _ => false

/-- What is allowed to happen. -/
def Allowed (c : Capacities) (s : State) : Action → Prop
  | .feed answer => s.feeder.result = none ∧ s.feeder.rest ≠ []
      ∧ s.input.MayAnswer c.input s.feeder.rest.length answer
  | .closeFeed => s.feeder.result = none ∧ s.feeder.rest = []
  | .drain side count => (s.drain side).atEnd = false ∧ 0 < count
      ∧ count ≤ (s.outlet side).held.length
  | .endDrain side => (s.drain side).atEnd = false
      ∧ (s.outlet side).held = [] ∧ (s.outlet side).hasWriter = false
  | .wait => s.status = none ∧ s.process.ending ≠ none
  | .read count => s.process.ending = none ∧ s.process.request = .read
      ∧ s.input.hasReader = true ∧ 0 < count ∧ count ≤ s.input.held.length
  | .readEnd => s.process.ending = none ∧ s.process.request = .read
      ∧ s.input.hasReader = true ∧ s.input.held = []
      ∧ s.input.hasWriter = false
  | .readRefused => s.process.ending = none ∧ s.process.request = .read
      ∧ s.input.hasReader = false
  | .write side count => s.process.ending = none
      ∧ s.process.request = .write side s.process.request.rest
      ∧ 0 < count ∧ count ≤ s.process.request.rest.length
      ∧ (s.outlet side).held.length + count ≤ c.outlet side
  | .wrote side => s.process.ending = none
      ∧ s.process.request = .write side []
  | .closeInput => s.process.ending = none ∧ s.process.request = .closeInput
  | .exit ending => s.process.ending = none
      ∧ s.process.request = .exit ending
  | .kill => s.process.ending = none

/-- The process has ended, which closes its ends of the pipes. -/
def State.finish (s : State) (ending : Ending) : State :=
  { s with
    input := s.input.closeReader
    outlet := fun side => (s.outlet side).closeWriter
    process := { s.process with ending := some ending } }

/-- The drain of one stream changed, and its pipe. -/
def State.onSide (s : State) (side : Side) (drain : Drain) (pipe : Pipe) :
    State :=
  { s with
    outlet := fun t => if t = side then pipe else s.outlet t
    drain := fun t => if t = side then drain else s.drain t }

/-- The process goes on with a reply. -/
def State.reply (program : Program) (s : State) (r : Reply) : State :=
  { s with process := s.process.proceed program r }

/-- What comes of an action. -/
def after (program : Program) (s : State) : Action → State
  | .feed (.ok count) =>
    { s with
      feeder := s.feeder.answered (.ok count)
      input := s.input.put (s.feeder.rest.take count) }
  | .feed (.error fault) =>
    { s with
      feeder := s.feeder.answered (.error fault)
      input := s.input.closeWriter }
  | .closeFeed =>
    { s with
      feeder := { s.feeder with result := some (.ok ()) }
      input := s.input.closeWriter }
  | .drain side count =>
    let pipe := s.outlet side
    let drain := s.drain side
    s.onSide side
      { drain with taken := drain.taken ++ pipe.held.take count }
      (pipe.take count)
  | .endDrain side =>
    s.onSide side { s.drain side with atEnd := true } (s.outlet side)
  | .wait => { s with status := s.process.ending }
  | .read count =>
    { s with input := s.input.take count }.reply program
      (.content (s.input.held.take count))
  | .readEnd => s.reply program .endOfInput
  | .readRefused => s.reply program .refused
  | .write side count =>
    { s with process := s.process.write side count }.onSide side
      (s.drain side)
      ((s.outlet side).put (s.process.request.rest.take count))
  | .wrote _ => s.reply program .done
  | .closeInput =>
    { s with input := s.input.closeReader }.reply program .done
  | .exit ending => s.finish ending
  | .kill => s.finish .killed

-- =================================================================== runs

instance (p : Pipe) (capacity offered : Nat) :
    (answer : Except WriteFault Nat) →
      Decidable (p.MayAnswer capacity offered answer)
  | .ok _ => inferInstanceAs (Decidable (_ ∧ _))
  | .error .brokenPipe => inferInstanceAs (Decidable (_ = _))
  | .error (.other _) => inferInstanceAs (Decidable False)

instance (c : Capacities) (s : State) : (a : Action) → Decidable (Allowed c s a)
  | .feed _ => inferInstanceAs (Decidable (_ = none ∧ _ ∧ _))
  | .closeFeed => inferInstanceAs (Decidable (_ ∧ _))
  | .drain _ _ => inferInstanceAs (Decidable (_ ∧ _))
  | .endDrain _ => inferInstanceAs (Decidable (_ ∧ _))
  | .wait => inferInstanceAs (Decidable (_ ∧ _))
  | .read _ => inferInstanceAs (Decidable (_ ∧ _))
  | .readEnd => inferInstanceAs (Decidable (_ ∧ _))
  | .readRefused => inferInstanceAs (Decidable (_ ∧ _))
  | .write _ _ => inferInstanceAs (Decidable (_ ∧ _))
  | .wrote _ => inferInstanceAs (Decidable (_ ∧ _))
  | .closeInput => inferInstanceAs (Decidable (_ ∧ _))
  | .exit _ => inferInstanceAs (Decidable (_ ∧ _))
  | .kill => inferInstanceAs (Decidable (_ = _))

/-- One action, if it is allowed. -/
def step (c : Capacities) (program : Program) (s : State) (a : Action) :
    Option State :=
  if Allowed c s a then some (after program s a) else none

/-- Actions one after another, as far as all of them are allowed. -/
def run (c : Capacities) (program : Program) : State → List Action →
    Option State
  | s, [] => some s
  | s, a :: as => (step c program s a).bind fun s => run c program s as

end ApiContract.Shell.Piping
