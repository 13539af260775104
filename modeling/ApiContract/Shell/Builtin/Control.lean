/-
Commands of the shell that end something (a loop, a function, the shell), go
somewhere else, or have to do with signals.
-/
import ApiContract.Shell.Builtin.Basic
import ApiContract.Shell.Builtin.Condition
import ApiContract.Shell.Expansion

namespace ApiContract.Shell.Builtin

open ApiContract.Shell.Action

-- ================================================================= endings

/-- `exit`. A shell that is at its end already keeps its status. -/
def exit : Builtin := fun arguments => do
  match arguments with
  | [] =>
    let s ← get
    conclude (s.leaving.getD s.status)
  | a :: _ => conclude (← numberOf a)
  throw .exit

/-- `return`. -/
def back : Builtin := fun arguments => do
  match arguments with
  | [] => pure ()
  | a :: _ => conclude (← numberOf a)
  throw .back

/-- `break` and `continue`: out of so many loops, of which there may be
fewer. -/
def loopEnd (stop : Nat → Stop) : Builtin := fun arguments => do
  let n ← match arguments with
    | [] => pure 1
    | a :: _ =>
      match ← numberOf a with
      | 0 => fail ("Illegal number: ".toList ++ a)
      | n => pure n
  conclude 0
  match min n (← get).loops with
  | 0 => return 0
  | n => throw (stop n)

-- ============================================================= directories

/-- The variable of the directory where the shell is, and the one where it was
before. -/
def directoryName : Stream := "PWD".toList

def earlierName : Stream := "OLDPWD".toList

/-- `cd`. -/
def changeDirectory : Builtin := fun arguments => do
  let (_, names) ← options [('L', false), ('P', false)] none arguments
  let asked ← match names with
    | [] => pure ((← valueOf? "HOME".toList).getD [])
    | ['-'] :: _ => pure ((← valueOf? earlierName).getD [])
    | name :: _ => pure name
  let path ← if asked.isEmpty then resolve ['.'] else resolve asked
  if !(← access (.isDirectory path .done)) then
    fail ("can't cd to ".toList ++ asked)
  let old := (← valueOf? directoryName).getD []
  let base := if old.isEmpty then ['/'] else old
  let new := Stream.ofText (Path.join (Stream.text base) (Stream.text asked))
  if !asked.isEmpty then
    modify fun s => { s with directory := path }
    put earlierName (some { value := some old, exported := true })
    put directoryName (some { value := some new, exported := true })
  if names.head? = some ['-'] then output (new ++ ['\n']) else return 0

/-- `pwd`. -/
def showDirectory : Builtin := fun arguments => do
  let _ ← options [('L', false), ('P', false)] none arguments
  output ((← valueOf? directoryName).getD [] ++ ['\n'])

-- ================================================================= signals

/-- The shell that runs all others gets a signal. It ends by most of those for
which it has no provision; what it has to do comes before its next command. -/
def deliver (signal : Signal) : Action Unit := do
  let s ← get
  if signal = 0 then return ()
  let provided := (s.traps.lookup signal).isSome
    && !Signal.isUnstoppable signal
  if s.depth = 0 && !provided then
    if Signal.isHarmless signal then return () else throw .killed
  else modify fun s => { s with signals := signal :: s.signals }

/-- How `kill` is called. -/
def killUsage : String :=
  "Usage: kill [-s sigspec | -signum | -sigspec] [pid | job]... or\n"
    ++ "kill -l [exitstatus]"

/-- The names of signals, or the one that a status tells. -/
def listSignals : Builtin := fun arguments => do
  match arguments with
  | [] =>
    let names := (List.range Signal.count).map Signal.name
    output (names.flatMap fun n => n.toList ++ ['\n'])
  | a :: _ =>
    let n ← numberOf a
    let n := if 128 < n then n - 128 else n
    if 0 < n && n < Signal.count then
      output ((Signal.name n).toList ++ ['\n'])
    else fail ("invalid signal number or exit status: ".toList ++ a)

/-- Sends a signal to processes, of which there is only the shell itself. -/
def sendSignal (signal : Signal) : List Stream → Nat → Action Nat
  | [], status => return status
  | target :: rest, status => do
    match target with
    | '%' :: _ => fail ("No such job: ".toList ++ target)
    | '-' :: digits =>
      let _ ← numberOf digits
      complain "No such process\n".toList
      sendSignal signal rest 1
    | _ =>
      if Stream.ofNat (← numberOf target) = ownNumber then
        deliver signal
        sendSignal signal rest status
      else
        complain "No such process\n".toList
        sendSignal signal rest 1

/-- `kill`. -/
def kill : Builtin := fun arguments => do
  let usage {α : Type} : Action α := fail killUsage.toList
  let given : Option Signal :=
    match arguments with
    | ('-' :: name) :: _ => Signal.read? 1 name
    | _ => none
  match given, arguments with
  | _, [] => usage
  | some signal, _ :: targets =>
    if targets.isEmpty then usage else sendSignal signal targets 0
  | none, _ =>
    let forms := [('l', false), ('s', true)]
    let (os, targets) ← options forms none arguments
    let signal ← (os.filter (·.1 = 's')).foldlM (fun _ o =>
      match Signal.read? 1 o.2 with
      | some signal => pure (some signal)
      | none => fail ("invalid signal number or name: ".toList ++ o.2)) none
    if os.any (·.1 = 'l') then
      if signal.isSome && !targets.isEmpty then usage
      else listSignals targets
    else if targets.isEmpty then usage
    else sendSignal (signal.getD Signal.terminate) targets 0

/-- The signal that a word of `trap` names; the end of the shell is number
zero. -/
def trapSignal? (s : Stream) : Option Signal :=
  if Signal.lower s = "exit".toList then some 0 else Signal.read? 1 s

/-- The provision for a signal as a command that makes it. -/
def shownTrap (trap : Signal × Stream) : Stream :=
  let name := if trap.1 = 0 then "EXIT" else Signal.name trap.1
  "trap -- ".toList ++ quotedValue trap.2 ++ ' ' :: name.toList ++ ['\n']

/-- What is done about signals, one after another. -/
def setTraps (action : Option Stream) : List Stream → Action Nat
  | [] => return 0
  | name :: rest => do
    match trapSignal? name with
    | none =>
      say ("trap: ".toList ++ name ++ ": bad trap\n".toList)
      return 1
    | some signal =>
      let action := action.filter (· ≠ ['-'])
      modify fun s =>
        let others := s.traps.filter (·.1 ≠ signal)
        { s with traps := (action.map ((signal, ·))).toList ++ others }
      setTraps action rest

/-- `trap`. -/
def trap : Builtin := fun arguments => do
  match ← operands arguments with
  | [] =>
    let traps := (← get).traps.mergeSort fun a b => decide (a.1 ≤ b.1)
    output (traps.flatMap shownTrap)
  | first :: rest =>
    if rest.isEmpty || (Stream.number? first).any (· < Signal.count) then
      setTraps none (first :: rest)
    else setTraps (some first) rest

/-- `wait`: the status of commands in the background, which are done. -/
def wait : Builtin := fun arguments => do
  match ← operands arguments with
  | [] => return 0
  | numbers =>
    let s ← get
    numbers.foldlM (fun _ n => do
      let _ ← numberOf n
      return (s.finished.lookup n).getD 127) 0

end ApiContract.Shell.Builtin
