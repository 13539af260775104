/-
Running what a shell has read. A command ends with a status; it may also end
more than itself: a loop, a function, the shell. A shell that runs apart comes
back with its status alone, whatever has ended it.

Commands run one after another, also the stages of a pipeline: each has the
whole output of the one before as its input.

Every command that runs another one hands on less fuel, so the fuel bounds how
deep commands and the rounds of a loop are nested.
-/
import ApiContract.Shell.Builtin
import ApiContract.Shell.Command.Reader
import ApiContract.Shell.Outcome

namespace ApiContract.Shell

namespace Action

-- ============================================================ redirections

/-- A redirection whose words are expanded. -/
inductive Settled where
  | file (fd : Nat) (how : Opening) (name : Stream)
  | copy (fd : Nat) (source : Option Nat)
  | document (fd : Nat) (number : Nat) (quoted : Bool)

/-- The descriptor that a redirection changes. -/
def Settled.descriptor : Settled → Nat
  | file fd .. | copy fd _ | document fd .. => fd

/-- Expands the words of a redirection. -/
def settle (run : Substitution) : Redirection → Action Settled
  | .of fd (.file how name) => do
    return .file fd how (← expandText run name)
  | .of fd (.document number quoted) => return .document fd number quoted
  | .of fd (.descriptor word) => do
    match ← expandText run word with
    | ['-'] => return .copy fd none
    | [c] =>
      if c.isDigit then return .copy fd (some (c.toNat - 0x30))
      else fail "Syntax error: Bad fd number".toList
    | _ => fail "Syntax error: Bad fd number".toList

/-- Why a file cannot be opened, in the words of the shell. -/
def openingFault (creating : Bool) (f : FileFault) : String :=
  match f with
  | .notFound | .notADirectory =>
    if creating then "Directory nonexistent" else "No such file"
  | f => f.words

/-- Does a redirection. -/
def redirect (run : Substitution) : Settled → Action Unit
  | .file fd how name => do
    let guarded := (← get).options.contains 'C'
    match ← openPath name how guarded with
    | .ok id => lead fd (some id)
    | .error fault =>
      let creating := how ≠ .read
      let verb := if creating then "create " else "open "
      fail ("cannot ".toList ++ String.toList verb ++ name ++ [':', ' ']
        ++ (openingFault creating fault).toList)
  | .copy fd none => lead fd none
  | .copy fd (some other) => do
    if fd = other then return ()
    match ← descriptor? other with
    | some id => lead fd (some id)
    | none =>
      fail (Stream.ofNat other ++ ": ".toList
        ++ badDescriptor.words.toList)
  | .document fd number _ => do
    let word := ((← get).documents.lookup number).getD []
    let text := chunkText (← expandParts run ⟨false, false⟩ word)
    lead fd (some (← add (.source text)))

-- ================================================================== status

/-- A command that failed ends the shell where that is asked for and nothing
else is done about it. -/
def check (tested : Bool) : Action Unit := do
  let s ← get
  if !tested && s.status ≠ 0 && s.options.contains 'e' then throw .exit

/-- How a round of a loop, or its condition, ends. -/
inductive RoundEnd where
  | finished
  | again
  | left

/-- A round of a loop, or its condition. -/
def roundOf (x : Action Unit) : Action RoundEnd := do
  modify fun s => { s with loops := s.loops + 1 }
  let result ← attempt x
  modify fun s => { s with loops := s.loops - 1 }
  match result with
  | .ok () => return .finished
  | .error (.leave n) =>
    if n ≤ 1 then return .left else throw (.leave (n - 1))
  | .error (.again n) =>
    if n ≤ 1 then return .again else throw (.again (n - 1))
  | .error stop => throw stop

/-- A shell of its own: what it does to variables, descriptors and the like is
lost, and what it is ended by ends nothing else. -/
def apart (x : Action Unit) : Action Nat := do
  let before ← get
  set { before with
    depth := before.depth + 1
    traps := before.traps.filter (·.2.isEmpty)
    leaving := none }
  let _ ← attempt x
  let after ← get
  set { before with opened := after.opened, signals := after.signals }
  return after.status

/-- What an action writes as output. -/
def captured (x : Action Nat) : Action (Stream × Nat) := do
  let id ← add (.sink [])
  let before ← get
  lead 1 (some id)
  let status ← x
  modify fun s => { s with descriptors := before.descriptors }
  match ← openedAt id with
  | .sink chunks => return (chunks.reverse.flatten, status)
  | _ => return ([], status)

-- ================================================================= tracing

/-- A simple command as it is run, where that is asked for, on the stream for
errors that was there before the redirections of the command. -/
def trace (errors : Option Nat) (words : List Stream) : Action Unit := do
  if (← get).options.contains 'x' then
    let mark := (← valueOf? "PS4".toList).getD []
    let line := mark ++ List.intercalate [' '] words ++ ['\n']
    match errors with
    | some id =>
      let _ ← write id line
    | none => return ()

-- ================================================================== names

/-- A word that is spelled as an assignment. -/
def isAssignment : Word → Bool
  | .text s false :: _ =>
    match s.span (· ≠ '=') with
    | (name, _ :: _) => Stream.isName name
    | (_, []) => false
  | _ => false

/-- What is behind `command` and its options; none when it is to describe
something, or nothing follows. -/
def behindCommand : List Stream → Option (List Stream)
  | [] => none
  | ['-', '-'] :: rest => if rest.isEmpty then none else some rest
  | ('-' :: c :: cs) :: rest =>
    if (c :: cs).all (· = 'p') then behindCommand rest else none
  | args => some args

/-- What a simple command calls: nothing, a command of the shell itself (which
may be special), a function, or what is to be found as a tool. -/
inductive Callee where
  | nothing
  | builtin (special : Bool) (name : Stream) (arguments : List Stream)
  | function (body : Command) (arguments : List Stream)
  | tool (name : Stream) (arguments : List Stream)

/-- The callee of words, where functions and special commands may count. -/
def calleeOf (functions : List (Stream × Command)) (plain : Bool) :
    Nat → List Stream → Callee
  | 0, _ => .nothing
  | _, [] => .nothing
  | fuel + 1, name :: arguments =>
    if Builtin.isSpecial name then .builtin plain name arguments
    else
      match if plain then functions.lookup name else none with
      | some body => .function body arguments
      | none =>
        if name = "command".toList then
          match behindCommand arguments with
          | none => .builtin false name arguments
          | some words => calleeOf functions false fuel words
        else if Builtin.isBuiltin name then .builtin false name arguments
        else .tool name arguments

/-- What is assigned before it stays. -/
def Callee.keepsAssignments : Callee → Bool
  | nothing | builtin true .. => true
  | _ => false

/-- Expands the words of a command. Where the command declares variables, a
word that is spelled as an assignment is not split. -/
def expandCall (run : Substitution) : List Word → List Stream →
    Action (List Stream)
  | [], words => return words
  | w :: ws, words => do
    let declares :=
      ((words.dropWhile (· = "command".toList)).head?).any Builtin.isDeclaring
    let new ←
      if declares && isAssignment w then pure [← expandText run w]
      else expandFields run w
    expandCall run ws (words ++ new)

/-- `command` when it is to describe something. -/
def describeCommand (arguments : List Stream) : Action Nat := do
  let forms := [('p', false), ('v', false), ('V', false)]
  let (os, names) ← Builtin.options forms none arguments
  match (os.filter (·.1 ≠ 'p')).getLast?, names with
  | some (c, _), name :: _ =>
    let (text, status) ← Builtin.describe (c = 'V') name
    Builtin.output text status
  | _, _ => return 0

/-- Runs a tool. -/
def runTool (name : Stream) (arguments : List Stream) : Action Nat := do
  match ← Tool.find name with
  | .tool _ t => t name arguments
  | .denied =>
    complain (name ++ ": Permission denied".toList)
    return if name.contains '/' then 126 else 127
  | .nowhere =>
    complain (name ++ ": not found".toList)
    return 127

/-- The text of a script and the name it is found by. -/
def findScript (name : Stream) : Action Stream := do
  if !name.contains '/' then fail (name ++ ": not found".toList)
  match ← openPath name .read with
  | .error fault =>
    fail ("cannot open ".toList ++ name ++ [':', ' ']
      ++ (openingFault false fault).toList)
  | .ok id => return ((← drain id).toOption).getD []

-- ================================================================= running

mutual

/-- Runs a text. It is read piece by piece, so that what can be read is done
before it is told that the rest cannot. -/
def runText (tested : Bool) (text : Stream) : Nat → Action Unit
  | 0 => return ()
  | fuel + 1 => runPieces tested { rest := text } 0 fuel

/-- Runs a text from where reading stands. The status is that of the last
command, if there is one. -/
def runPieces (tested : Bool) (r : Reading) (status : Nat) :
    Nat → Action Unit
  | 0 => return ()
  | fuel + 1 => do
    match ({ r with count := (← get).documentCount } : Reading).next? with
    | .error e =>
      modify fun s => { s with line := e.line }
      fail (Stream.ofText e.message)
    | .ok none => conclude status
    | .ok (some (commands, r)) =>
      modify fun s =>
        { s with
          documents := r.documents ++ s.documents
          documentCount := r.count }
      runAll tested commands fuel
      let now := (← get).status
      let status := if commands.isEmpty then status else now
      runPieces tested { r with documents := [] } status fuel

/-- Runs commands one after another. -/
def runAll (tested : Bool) (cs : List Command) : Nat → Action Unit
  | 0 => return ()
  | fuel + 1 => do
    match cs with
    | [] => return ()
    | [c] => runCommand tested c fuel
    | c :: cs =>
      runCommand tested c fuel
      runAll tested cs fuel

/-- Does what is provided for the signals that have come, by their numbers. -/
def attend : Nat → Action Unit
  | 0 => return ()
  | fuel + 1 => do
    let s ← get
    if s.depth ≠ 0 || s.signals.isEmpty then return ()
    let signals := (List.range Signal.count).filter s.signals.contains
    set { s with signals := [] }
    attendAll signals fuel

/-- Does what is provided for signals. -/
def attendAll (signals : List Signal) : Nat → Action Unit
  | 0 => return ()
  | fuel + 1 => do
    match signals with
    | [] => return ()
    | signal :: rest =>
      let s ← get
      let provision :=
        if Signal.isUnstoppable signal then none else s.traps.lookup signal
      match provision with
      | some [] => attendAll rest fuel
      | some text =>
        runText false text fuel
        conclude s.status
        attendAll rest fuel
      | none =>
        if Signal.isHarmless signal then attendAll rest fuel
        else throw .killed

/-- An action, and what is provided for the end of the shell behind it,
however it has ended. -/
def toTheEnd (x : Action Unit) : Nat → Action Unit
  | 0 => return ()
  | fuel + 1 => do
    let result ← attempt x
    if let .error .killed := result then throw .killed
    let attended ← attempt (attend fuel)
    if let .error .killed := attended then throw .killed
    let s ← get
    match s.traps.lookup 0 with
    | none => return ()
    | some text =>
      set { s with
        traps := s.traps.filter (·.1 ≠ 0), leaving := some s.status }
      match ← attempt (runText false text fuel) with
      | .error .exit => return ()
      | .error .killed => throw .killed
      | _ => conclude s.status

/-- The output of commands that run apart. -/
def substitute (cs : List Command) : Nat → Action Stream
  | 0 => return []
  | fuel + 1 => do
    let (text, status) ← captured (apart (toTheEnd (runAll false cs fuel) fuel))
    modify fun s => { s with substituted := status }
    return text

/-- Runs a command. -/
def runCommand (tested : Bool) (c : Command) : Nat → Action Unit
  | 0 => return ()
  | fuel + 1 => do
    if (← get).options.contains 'n' then return ()
    attend fuel
    let run : Substitution := fun cs => substitute cs fuel
    match c with
    | .simple line assignments words redirections =>
      modify fun s => { s with line, substituted := 0 }
      runSimple tested assignments words redirections fuel
      check tested
    | .pipeline stages =>
      runStages tested stages fuel
      check tested
    | .negated c =>
      runCommand true c fuel
      conclude (if (← get).status = 0 then 1 else 0)
    | .both first second =>
      runCommand true first fuel
      if (← get).status = 0 then runCommand tested second fuel
    | .either first second =>
      runCommand true first fuel
      if (← get).status ≠ 0 then runCommand tested second fuel
    | .background c =>
      let status ← apart do
        lead 0 (some (← add .nothing))
        toTheEnd (runCommand false c fuel) fuel
      modify fun s =>
        let number := Stream.ofNat (s.finished.length + 2)
        { s with finished := (number, status) :: s.finished, status := 0 }
    | .apart line body redirections =>
      modify fun s => { s with line }
      let settled ← redirections.mapM (settle run)
      conclude (← apart (toTheEnd (do
        settled.forM (redirect run)
        runAll tested body fuel) fuel))
      check tested
    | .group body => runAll tested body fuel
    | .redirected line c redirections =>
      modify fun s => { s with line }
      let settled ← redirections.mapM (settle run)
      keeping (settled.map (·.descriptor)) do
        match ← attempt (settled.forM (redirect run)) with
        | .ok () => runCommand tested c fuel
        | .error .failed => conclude 2
        | .error stop => throw stop
    | .condition test body otherwise =>
      runAll true test fuel
      if (← get).status = 0 then runAll tested body fuel
      else
        conclude 0
        runAll tested otherwise fuel
    | .repeated negative test body => runRounds tested negative test body 0 fuel
    | .loop line name words body =>
      modify fun s => { s with line }
      let items := (← words.mapM (expandFields run)).flatten
      conclude 0
      runItems tested name items body fuel
    | .choice line word arms =>
      modify fun s => { s with line }
      let text ← expandText run word
      runArm tested text arms fuel
    | .definition line name body =>
      modify fun s =>
        { s with
          line
          functions := (name, body) :: s.functions.filter (·.1 ≠ name)
          status := 0 }

/-- Runs the stages of a pipeline, each apart. -/
def runStages (tested : Bool) (stages : List Command) : Nat → Action Unit
  | 0 => return ()
  | fuel + 1 => do
    match stages with
    | [] => return ()
    | [c] =>
      conclude (← apart (toTheEnd (runCommand tested c fuel) fuel))
      attend fuel
    | c :: cs =>
      let (text, _) ←
        captured (apart (toTheEnd (runCommand tested c fuel) fuel))
      keeping [0] do
        lead 0 (some (← add (.source text)))
        runStages tested cs fuel

/-- Runs the rounds of a loop with a condition; the last round had a
status. -/
def runRounds (tested negative : Bool) (test body : List Command)
    (status : Nat) : Nat → Action Unit
  | 0 => return ()
  | fuel + 1 => do
    match ← roundOf (runAll true test fuel) with
    | .left => conclude status
    | .again => runRounds tested negative test body status fuel
    | .finished =>
      if decide ((← get).status = 0) = negative then conclude status
      else
        match ← roundOf (runAll tested body fuel) with
        | .left => return ()
        | _ => runRounds tested negative test body (← get).status fuel

/-- Runs the rounds of a loop over items. -/
def runItems (tested : Bool) (name : Stream) (items : List Stream)
    (body : List Command) : Nat → Action Unit
  | 0 => return ()
  | fuel + 1 => do
    match items with
    | [] => return ()
    | item :: items =>
      assign name item
      match ← roundOf (runAll tested body fuel) with
      | .left => return ()
      | _ => runItems tested name items body fuel

/-- Runs the first arm that has a pattern for a text. -/
def runArm (tested : Bool) (text : Stream)
    (arms : List (List Word × List Command)) : Nat → Action Unit
  | 0 => return ()
  | fuel + 1 => do
    match arms with
    | [] => conclude 0
    | (patterns, body) :: arms =>
      if ← isMatched text patterns fuel then
        conclude 0
        runAll tested body fuel
      else runArm tested text arms fuel

/-- One of the patterns matches a text. -/
def isMatched (text : Stream) (patterns : List Word) : Nat → Action Bool
  | 0 => return false
  | fuel + 1 => do
    match patterns with
    | [] => return false
    | p :: ps =>
      let pattern ← expandPattern (fun cs => substitute cs fuel) p
      if globMatches pattern text then return true
      else isMatched text ps fuel

/-- Runs a simple command: its words are expanded first, then its redirections
are done, then its assignments. -/
def runSimple (tested : Bool) (assignments : List (Stream × Word))
    (words : List Word) (redirections : List Redirection) :
    Nat → Action Unit
  | 0 => return ()
  | fuel + 1 => do
    let run : Substitution := fun cs => substitute cs fuel
    let words ← expandCall run words []
    let callee :=
      calleeOf (← get).functions true (words.length + 1) words
    let errors ← descriptor? 2
    let settled ← redirections.mapM (settle run)
    let isExec : Bool :=
      match callee with
      | .builtin _ name _ => name = "exec".toList
      | _ => false
    let whole : Action Unit := do
      match ← attempt (settled.forM (redirect run)) with
      | .ok () =>
        let assigned ← assignments.mapM fun (name, w) => do
          let value ← expandText run w
          if !callee.keepsAssignments then keep name
          assign name value
          if !callee.keepsAssignments || (isExec && 1 < words.length) then
            modify fun s =>
              { s with vars := s.vars.map fun v =>
                if v.1 = name then (name, { v.2 with exported := true })
                else v }
          return name ++ '=' :: value
        trace errors (assigned ++ words)
        call tested callee fuel
      | .error .failed =>
        conclude 2
        match callee with
        | .builtin true .. => throw .failed
        | _ => return ()
      | .error stop => throw stop
    let whole := if callee.keepsAssignments then whole else inScope whole
    let stays : Bool :=
      match callee with
      | .builtin _ _ [] => isExec
      | _ => false
    if stays then whole else keeping (settled.map (·.descriptor)) whole

/-- Calls something. -/
def call (tested : Bool) (callee : Callee) : Nat → Action Unit
  | 0 => return ()
  | fuel + 1 => do
    match callee with
    | .nothing => conclude (← get).substituted
    | .tool name arguments => conclude (← runTool name arguments)
    | .function body arguments =>
      let before ← get
      set { before with parameters := arguments, loops := 0 }
      let result ← attempt (runCommand tested body fuel)
      modify fun s =>
        { s with parameters := before.parameters, loops := before.loops }
      match result with
      | .ok () | .error .back => return ()
      | .error stop => throw stop
    | .builtin special name arguments =>
      let before := (← get).speaker
      modify fun s => { s with speaker := some name }
      let result ← attempt (callBuiltin tested name arguments fuel)
      modify fun s => { s with speaker := before }
      match result with
      | .ok status => conclude status
      | .error .failed => if special then throw .failed
      | .error stop => throw stop

/-- Calls a command of the shell itself. -/
def callBuiltin (tested : Bool) (name : Stream) (arguments : List Stream) :
    Nat → Action Nat
  | 0 => return 0
  | fuel + 1 => do
    match String.ofList name, arguments with
    | "eval", [] => return 0
    | "eval", words =>
      runText tested (List.intercalate [' '] words) fuel
      return (← get).status
    | ".", [] => return 0
    | ".", script :: _ =>
      let text ← findScript script
      modify fun s => { s with speaker := some script }
      match ← attempt (runText tested text fuel) with
      | .ok () | .error .back => return (← get).status
      | .error stop => throw stop
    | "exec", [] => return 0
    | "exec", tool :: arguments =>
      conclude (← runTool tool arguments)
      modify fun s => { s with traps := [] }
      throw .exit
    | "command", arguments => describeCommand arguments
    | "type", arguments => Builtin.type arguments
    | _, arguments =>
      match Builtin.ofName? name with
      | some b => b arguments
      | none => return 0

end

end Action

-- =============================================================== outcomes

/-- The letters of the options that the shell itself takes. -/
def optionLetters : Stream := "abcefilmnopsuvxCEIV".toList

/-- What the shell says about a command line that begins with a sign: it is
taken for options, and then the command line is missing. -/
def optionMessage? (commandLine : Stream) : Option Stream :=
  match commandLine with
  | [] => none
  | sign :: letters =>
    if sign = '-' || sign = '+' then
      let wrong :=
        if commandLine = ['-', '-'] then none
        else letters.find? (!optionLetters.contains ·)
      match wrong with
      | some letter =>
        some ("sh: 0: Illegal option -".toList ++ [letter, '\n'])
      | none => some "sh: 0: -c requires an argument\n".toList
    else none

/-- The variables of a shell at first. -/
def firstVariables (directory : Stream) : List (Stream × Variable) :=
  let plain (name value : String) : Stream × Variable :=
    (name.toList, { value := some value.toList })
  [plain "IFS" " \t\n", plain "OPTIND" "1", plain "PPID" "1", plain "PS1" "# ",
    plain "PS2" "> ", plain "PS4" "+ ",
    ("PATH".toList,
      { value := some "/usr/bin:/bin".toList, exported := true }),
    ("PWD".toList, { value := some directory, exported := true })]

/-- A shell at first, in a directory, with an input. -/
def State.first (directory : String) (input : Stream) : State where
  opened := #[.source input, .sink [], .sink []]
  descriptors := [(0, 0), (1, 1), (2, 2)]
  directory := directory
  vars := firstVariables (Stream.ofText directory)

/-- What was written to something opened. -/
def State.written (s : State) (id : Nat) : Bytes :=
  match s.opened[id]? with
  | some (.sink chunks) => Stream.toBytes chunks.reverse.flatten
  | _ => []

/-- How deep commands and rounds may be nested. Only a command line that does
not end needs more. -/
def deepest : Nat := 100000000

/-- Runs a command line with an input in a directory. -/
def run (directory commandLine input : String) : Access Outcome :=
  let text := Stream.ofText commandLine
  match optionMessage? text with
  | some message => .done (.of (.exited 2) [] (Stream.toBytes message))
  | none =>
    let whole : Action Unit :=
      Action.toTheEnd (Action.runText false text deepest) deepest
    (whole (State.first directory (Stream.ofText input))).andThen
      fun (result, s) =>
        let ending : Ending :=
          match result with
          | .error .killed => .killed
          | _ => .exited (s.status % 256)
        .done (.of ending (s.written 1) (s.written 2))

end ApiContract.Shell
