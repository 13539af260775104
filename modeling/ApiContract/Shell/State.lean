/-
The state of a running shell, and the actions that it is changed by. An action
reads and writes files, changes the state, and either goes on or ends
something: a loop, a function, the shell.

A descriptor leads to something opened, which other descriptors may share, so
what one command reads or writes is read or written for all. A shell that runs
apart has its own variables and descriptors, but what they lead to stays
common.
-/
import ApiContract.Files.Access
import ApiContract.Shell.Command
import ApiContract.Shell.Signal

namespace ApiContract.Shell

/-- Something opened: what is left of a stream, what has been put into one
(the latest first), a file with the place that has been reached, a directory,
or the empty device. -/
inductive Opened where
  | source (rest : Stream)
  | sink (chunks : List Stream)
  | file (path : String) (place : Nat) (how : Opening)
  | directory
  | nothing

/-- A variable, perhaps without a value. -/
structure Variable where
  value : Option Stream := none
  exported : Bool := false
  readOnly : Bool := false

/-- Why an action does not go on. The rounds of a loop are counted from the
innermost one outwards; a failure ends the shell unless it arises in an
ordinary command of its own. -/
inductive Stop where
  | exit
  | killed
  | failed
  | leave (rounds : Nat)
  | again (rounds : Nat)
  | back
  deriving DecidableEq, Repr

/-- The state of a shell. `depth` counts the shells around this one, `scopes`
holds what variables were before a function or a command gave them other
values, and `leaving` is the status of a shell that is at its end. -/
structure State where
  opened : Array Opened
  descriptors : List (Nat × Nat)
  directory : String := ""
  vars : List (Stream × Variable) := []
  functions : List (Stream × Command) := []
  parameters : List Stream := []
  options : List Char := []
  status : Nat := 0
  substituted : Nat := 0
  line : Nat := 1
  speaker : Option Stream := none
  documents : List (Nat × Word) := []
  documentCount : Nat := 0
  traps : List (Signal × Stream) := []
  signals : List Signal := []
  scopes : List (List (Stream × Option Variable)) := []
  loops : Nat := 0
  depth : Nat := 0
  finished : List (Stream × Nat) := []
  leaving : Option Nat := none
  optionPlace : Nat := 0

/-- Something a shell does. -/
abbrev Action := ExceptT Stop (StateT State Access)

namespace Action

-- ============================================================ descriptors

/-- Access to files. -/
def access {α : Type} (x : Access α) : Action α :=
  fun s => x.andThen fun a => .done (.ok a, s)

/-- The fault of a descriptor that leads nowhere fit. -/
def badDescriptor : FileFault := .other "Bad file descriptor"

/-- The path that a name stands for where the shell is. -/
def resolve (name : Stream) : Action String := do
  if name.isEmpty then return ""
  return Path.join (← get).directory (Stream.text name)

/-- What a number stands for among the things opened. -/
def openedAt (id : Nat) : Action Opened := do
  return ((← get).opened[id]?).getD .nothing

/-- Something more is opened. -/
def add (o : Opened) : Action Nat := do
  let s ← get
  set { s with opened := s.opened.push o }
  return s.opened.size

/-- Something opened has become something else. -/
def replace (id : Nat) (o : Opened) : Action Unit :=
  modify fun s => { s with opened := s.opened.setIfInBounds id o }

/-- What a descriptor leads to. -/
def descriptor? (fd : Nat) : Action (Option Nat) := do
  return (← get).descriptors.lookup fd

/-- A descriptor leads elsewhere, or nowhere. -/
def lead (fd : Nat) (id : Option Nat) : Action Unit :=
  modify fun s =>
    let others := s.descriptors.filter (·.1 ≠ fd)
    { s with
      descriptors := (id.map ((fd, ·))).toList ++ others }

/-- An opening that allows reading. -/
def reads : Opening → Bool
  | .read | .both => true
  | _ => false

/-- What is left to be read of something opened. -/
def lookAhead (id : Nat) : Action (Except FileFault Stream) := do
  match ← openedAt id with
  | .source rest => return .ok rest
  | .sink _ => return .error badDescriptor
  | .file path place how =>
    if reads how then
      let content ← access (.read path .done)
      return content.map fun c => Stream.ofBytes (c.drop place)
    else return .error badDescriptor
  | .directory => return .error .isADirectory
  | .nothing => return .ok []

/-- Passes over the first `n` octets of what is left. -/
def pass (id : Nat) (n : Nat) : Action Unit := do
  match ← openedAt id with
  | .source rest => replace id (.source (rest.drop n))
  | .file path place how => replace id (.file path (place + n) how)
  | _ => return ()

/-- What is left of something opened, all of which is passed over. -/
def drain (id : Nat) : Action (Except FileFault Stream) := do
  let content ← lookAhead id
  match content with
  | .ok s => pass id s.length
  | .error _ => pure ()
  return content

/-- Reading of something opened may start again at an earlier place. -/
def isSeekable (id : Nat) : Action Bool := do
  match ← openedAt id with
  | .file .. => return true
  | _ => return false

/-- Writes to something opened. -/
def write (id : Nat) (text : Stream) : Action (Except FileFault Unit) := do
  match ← openedAt id with
  | .source _ | .directory => return .error badDescriptor
  | .nothing => return .ok ()
  | .sink chunks =>
    replace id (.sink (text :: chunks))
    return .ok ()
  | .file path place how =>
    if how = .read then return .error badDescriptor
    else
      match ← access (.read path .done) with
      | .error fault => return .error fault
      | .ok old =>
        let place := if how = .append then old.length else place
        let before :=
          old.take place ++ List.replicate (place - old.length) 0
        let new := before ++ Stream.toBytes text
          ++ old.drop (place + text.length)
        replace id (.file path (place + text.length) how)
        access (.create path new .done)

/-- Writes to what a descriptor leads to. Nothing at all can be written to
any. -/
def emit (fd : Nat) (text : Stream) : Action (Except FileFault Unit) := do
  if text.isEmpty then return .ok ()
  match ← descriptor? fd with
  | some id => write id text
  | none => return .error badDescriptor

/-- The descriptor that a path of the system stands for. -/
def standardDescriptor? (name : Stream) : Option Nat :=
  match String.ofList name with
  | "/dev/stdin" => some 0
  | "/dev/stdout" => some 1
  | "/dev/stderr" => some 2
  | text =>
    if text.startsWith "/dev/fd/" then Stream.number? (name.drop 8) else none

/-- Opens a file anew. -/
def openFile (path : String) (how : Opening) (guarded : Bool) :
    Action (Except FileFault Nat) := do
  let made (o : Except FileFault Unit) : Action (Except FileFault Nat) := do
    match o with
    | .ok () => return .ok (← add (.file path 0 how))
    | .error fault => return .error fault
  let create : Action (Except FileFault Nat) := do
    made (← access (.create path [] .done))
  match how with
  | .read =>
    if ← access (.isDirectory path .done) then return .ok (← add .directory)
    made ((← access (.read path .done)).map fun _ => ())
  | .clobber => create
  | .write =>
    if guarded && (← access (.read path .done)).isOk then
      return .error (.other "File exists")
    else create
  | .append | .both =>
    match ← access (.read path .done) with
    | .ok _ => made (.ok ())
    | .error .notFound => create
    | .error fault => return .error fault

/-- Opens what a name stands for. A name of a descriptor opens what it leads
to once more: a file from its beginning, a stream where it is. -/
def openPath (name : Stream) (how : Opening) (guarded : Bool := false) :
    Action (Except FileFault Nat) := do
  match standardDescriptor? name with
  | some fd =>
    match ← descriptor? fd with
    | none => return .error .notFound
    | some id =>
      match ← openedAt id with
      | .file path _ _ => openFile path how guarded
      | _ => return .ok id
  | none =>
    if name = "/dev/null".toList then return .ok (← add .nothing)
    else openFile (← resolve name) how guarded

/-- Something is there at a path. -/
def isThere (name : Stream) : Action Bool := do
  if name = "/dev/null".toList then return true
  let path ← resolve name
  if ← access (.isDirectory path .done) then return true
  return (← access (.read path .done)).isOk

-- =============================================================== messages

/-- A message to the stream for errors. -/
def say (text : Stream) : Action Unit := do
  let _ ← emit 2 text

/-- A message of the shell, with the line and the command that it is about. -/
def complain (message : Stream) : Action Unit := do
  let s ← get
  let about : Stream := (s.speaker.map (· ++ [':', ' '])).getD []
  say ("sh: ".toList ++ Stream.ofNat s.line ++ [':', ' '] ++ about ++ message
    ++ ['\n'])

/-- The status of the last command. -/
def conclude (status : Nat) : Action Unit :=
  modify fun s => { s with status }

/-- A failure of the shell, with a message. -/
def fail {α : Type} (message : Stream) : Action α := do
  complain message
  conclude 2
  throw .failed

/-- The whole number without a sign that a text spells. -/
def numberOf (s : Stream) : Action Nat := do
  match (Stream.number? s).filter (· < Nat.pow 2 31) with
  | some n => return n
  | none => fail ("Illegal number: ".toList ++ s)

-- ============================================================== variables

/-- A variable by its name. -/
def variableOf? (name : Stream) : Action (Option Variable) := do
  return (← get).vars.lookup name

/-- The value of a variable. -/
def valueOf? (name : Stream) : Action (Option Stream) := do
  return (← variableOf? name).bind (·.value)

/-- A variable as it is from now on, or none. -/
def put (name : Stream) (v : Option Variable) : Action Unit :=
  modify fun s =>
    let others := s.vars.filter (·.1 ≠ name)
    { s with vars := (v.map ((name, ·))).toList ++ others }

/-- Gives a variable a value. -/
def assign (name value : Stream) : Action Unit := do
  if !Stream.isName name then fail (name ++ ": bad variable name".toList)
  let old := (← variableOf? name).getD {}
  if old.readOnly then fail (name ++ ": is read only".toList)
  let exported := old.exported || (← get).options.contains 'a'
  put name (some { old with value := some value, exported })
  if name = "OPTIND".toList then modify fun s => { s with optionPlace := 0 }

/-- Keeps what a variable is for the end of the innermost scope, if that has
not kept it yet. -/
def keep (name : Stream) : Action Unit := do
  let old ← variableOf? name
  modify fun s =>
    match s.scopes with
    | scope :: scopes =>
      if (scope.lookup name).isSome then s
      else { s with scopes := ((name, old) :: scope) :: scopes }
    | [] => s

/-- An action, and another one behind it however the first one ends. -/
def closing {α : Type} (x : Action α) (behind : Action Unit) : Action α :=
  fun s =>
    (x s).andThen fun (result, s) =>
      (behind s).andThen fun (closed, s) =>
        .done (closed.bind fun _ => result, s)

/-- An action in a scope of its own: behind it, what was kept is as before. -/
def inScope {α : Type} (x : Action α) : Action α := do
  modify fun s => { s with scopes := [] :: s.scopes }
  closing x do
    let s ← get
    set { s with scopes := s.scopes.drop 1 }
    for (name, old) in s.scopes.headD [] do put name old

/-- An action behind which these descriptors lead where they led before. -/
def keeping {α : Type} (fds : List Nat) (x : Action α) : Action α := do
  let before := (← get).descriptors
  closing x do
    for fd in fds do lead fd (before.lookup fd)

/-- How an action ends, after which others go on. -/
def attempt {α : Type} (x : Action α) : Action (Except Stop α) :=
  fun s => (x s).andThen fun (result, s) => .done (.ok result, s)

end Action

end ApiContract.Shell
