/-
Commands of the shell about its variables, options and parameters, and `read`,
which gives variables the fields of a line.
-/
import ApiContract.Shell.Builtin.Basic
import ApiContract.Shell.Expansion

namespace ApiContract.Shell.Builtin

open ApiContract.Shell.Action

-- ================================================================= listing

/-- The variables in the order of their names. -/
def sortedVariables : Action (List (Stream × Variable)) := do
  return (← get).vars.mergeSort fun a b => !decide (b.1 < a.1)

/-- A variable as a command that makes it. -/
def shown (lead : Stream) (name : Stream) (v : Variable) : Stream :=
  let value := (v.value.map fun s => '=' :: quotedValue s).getD []
  lead ++ name ++ value ++ ['\n']

-- ==================================================================== marks

/-- Gives a variable a mark, and perhaps a value. -/
def mark (f : Variable → Variable) (argument : Stream) : Action Unit := do
  let (name, value) : Stream × Option Stream :=
    match argument.span (· ≠ '=') with
    | (name, _ :: value) => (name, some value)
    | (name, []) => (name, none)
  match value with
  | some value => assign name value
  | none =>
    if !Stream.isName name then fail (name ++ ": bad variable name".toList)
  let old := (← variableOf? name).getD {}
  put name (some (f old))

/-- A command that marks variables, or shows those that are marked. -/
def marking (name : Stream) (f : Variable → Variable)
    (isMarked : Variable → Bool) : Builtin := fun arguments => do
  let (os, names) ← options [('p', false)] none arguments
  if names.isEmpty || !os.isEmpty then
    let marked := (← sortedVariables).filter (isMarked ·.2)
    output (marked.flatMap fun v => shown (name ++ [' ']) v.1 v.2)
  else
    names.forM (mark f)
    return 0

/-- `export`. -/
def exportNames : Builtin :=
  marking "export".toList ({ · with exported := true }) (·.exported)

/-- `readonly`. -/
def freezeNames : Builtin :=
  marking "readonly".toList ({ · with readOnly := true }) (·.readOnly)

/-- `local`: variables that are as before when the function is over. -/
def localNames : Builtin := fun arguments => do
  if (← get).scopes.isEmpty then fail "not in a function".toList
  for argument in arguments do
    let name := argument.takeWhile (· ≠ '=')
    if !Stream.isName name then
      fail (name ++ ": bad variable name".toList)
    keep name
    if name.length < argument.length then
      assign name (argument.drop (name.length + 1))
  return 0

/-- `unset`. -/
def unset : Builtin := fun arguments => do
  let (os, names) ← options [('v', false), ('f', false)] none arguments
  for name in names do
    if os.getLast?.any (·.1 = 'f') then
      modify fun s =>
        { s with functions := s.functions.filter (·.1 ≠ name) }
    else
      if !Stream.isName name then
        fail (name ++ ": bad variable name".toList)
      if (← variableOf? name).any (·.readOnly) then
        fail (name ++ ": is read only".toList)
      put name none
  return 0

-- ================================================================= options

/-- The options of the shell by their names, with their letters. -/
def optionNames : List (String × Char) :=
  [("errexit", 'e'), ("noglob", 'f'), ("ignoreeof", 'I'),
    ("interactive", 'i'), ("monitor", 'm'), ("noexec", 'n'), ("stdin", 's'),
    ("xtrace", 'x'), ("verbose", 'v'), ("vi", 'V'), ("emacs", 'E'),
    ("noclobber", 'C'), ("allexport", 'a'), ("notify", 'b'),
    ("nounset", 'u'), ("privileged", 'p')]

/-- Turns an option on or off. Those that are on are held from the last one
to the first. -/
def setOption (on : Bool) (letter : Char) : Action Unit :=
  modify fun s =>
    let others := s.options.filter (· ≠ letter)
    let new := if on then letter :: others else others
    { s with options :=
        (optionNames.map (·.2)).reverse.filter new.contains }

/-- The options with whether they are on, to be read or to be run again. -/
def listOptions (forReading : Bool) : Action Nat := do
  let s ← get
  let line (o : String × Char) : Stream :=
    let on := s.options.contains o.2
    if forReading then
      o.1.toList ++ List.replicate (16 - o.1.length) ' '
        ++ (if on then "on\n" else "off\n").toList
    else
      ("set " ++ (if on then "-o " else "+o ") ++ o.1 ++ "\n").toList
  let head := if forReading then "Current option settings\n".toList else []
  output (head ++ optionNames.flatMap line)

/-- The letters of one argument of `set`, and how many of them ask for a
name. -/
def setLetters (on : Bool) : Stream → Action Nat
  | [] => return 0
  | c :: cs => do
    if c = 'o' then return (← setLetters on cs) + 1
    else if optionNames.any (·.2 = c) then
      setOption on c
      setLetters on cs
    else fail ("Illegal option -".toList ++ [c])

/-- Options by their names, as many as were asked for. -/
def setNames (on : Bool) : Nat → List Stream → Action (List Stream)
  | 0, rest => return rest
  | n + 1, [] => do
    let _ ← listOptions on
    setNames on n []
  | n + 1, name :: rest => do
    match optionNames.lookup (String.ofList name) with
    | some letter =>
      setOption on letter
      setNames on n rest
    | none =>
      if ["nolog", "debug"].contains (String.ofList name) then
        setNames on n rest
      else fail ("Illegal option -o ".toList ++ name)

/-- The options of `set`; the parameters behind them, if there are new
ones. -/
def setAll : Nat → List Stream → Action (Option (List Stream))
  | 0, _ => return none
  | _, [] => return none
  | fuel + 1, argument :: rest => do
    match argument with
    | ['-'] =>
      setOption false 'x'
      setOption false 'v'
      return if rest.isEmpty then none else some rest
    | ['-', '-'] => return some rest
    | '-' :: cs =>
      let names ← setLetters true cs
      setAll fuel (← setNames true names rest)
    | '+' :: cs =>
      let names ← setLetters false cs
      setAll fuel (← setNames false names rest)
    | _ => return some (argument :: rest)

/-- `set`. -/
def set : Builtin := fun arguments => do
  if arguments.isEmpty then
    let there := (← sortedVariables).filter (·.2.value.isSome)
    output (there.flatMap fun v => shown [] v.1 v.2)
  else
    match ← setAll (arguments.length + 1) arguments with
    | some parameters =>
      modify fun s => { s with parameters, optionPlace := 0 }
      return 0
    | none => return 0

/-- `shift`. -/
def shift : Builtin := fun arguments => do
  let n ← match arguments with
    | [] => pure 1
    | a :: _ => numberOf a
  let s ← get
  if s.parameters.length < n then fail "can't shift that many".toList
  MonadState.set { s with parameters := s.parameters.drop n }
  return 0

-- ================================================================= getopts

/-- The option of a letter among those that are asked for: whether it takes a
value. -/
def optionForm? (c : Char) : Stream → Option Bool
  | [] => none
  | d :: ':' :: rest => if c = d then some true else optionForm? c rest
  | d :: rest => if c = d then some false else optionForm? c rest

/-- `getopts`: the next option of the parameters or of other words. -/
def getopts : Builtin := fun arguments => do
  match arguments with
  | form :: name :: words =>
    let s ← get
    let words := if words.isEmpty then s.parameters else words
    let index := (((← valueOf? "OPTIND".toList).bind Stream.number?).getD 1)
    let index := if index = 0 || words.length + 1 < index then 1 else index
    let silent := form.head? = some ':'
    let finish (index place : Nat) (found : Stream) (status : Nat) :
        Action Nat := do
      assign "OPTIND".toList (Stream.ofNat index)
      assign name found
      modify fun s => { s with optionPlace := place }
      return status
    let current : Stream := if index ≤ 1 then [] else words[index - 2]?.getD []
    let under := if s.optionPlace = 0 then [] else current.drop s.optionPlace
    let (index, text, place) : Nat × Stream × Nat :=
      match under with
      | [] =>
        match words[index - 1]? with
        | some ['-', '-'] => (index + 1, [], 0)
        | some ('-' :: c :: cs) => (index + 1, c :: cs, 1)
        | _ => (index, [], 0)
      | _ => (index, under, s.optionPlace)
    match text with
    | [] => finish index 0 ['?'] 1
    | c :: rest =>
      let next := if rest.isEmpty then 0 else place + 1
      match optionForm? c form with
      | none =>
        if silent then assign "OPTARG".toList [c]
        else
          say ("Illegal option -".toList ++ [c, '\n'])
          put "OPTARG".toList none
        finish index next ['?'] 0
      | some false =>
        assign "OPTARG".toList []
        finish index next [c] 0
      | some true =>
        if !rest.isEmpty then
          assign "OPTARG".toList rest
          finish index 0 [c] 0
        else
          match words[index - 1]? with
          | some value =>
            assign "OPTARG".toList value
            finish (index + 1) 0 [c] 0
          | none =>
            if silent then
              assign "OPTARG".toList [c]
              finish index 0 [':'] 0
            else
              say ("No arg for -".toList ++ c :: " option\n".toList)
              put "OPTARG".toList none
              finish index 0 ['?'] 0
  | _ => fail "Usage: getopts optstring var [arg...]".toList

-- ==================================================================== read

/-- A line of the input: its octets, each with whether a backslash stood
before it, in pieces that joined lines come from; what is left, and whether
the line has its end. Backslashes are plain when `raw` says so. -/
structure InputLine where
  pieces : List (List (Char × Bool))
  rest : Stream
  ended : Bool

/-- An octet at the start of a line. -/
def InputLine.push (l : InputLine) (c : Char) (quoted : Bool) : InputLine :=
  match l.pieces with
  | p :: ps => { l with pieces := ((c, quoted) :: p) :: ps }
  | [] => { l with pieces := [[(c, quoted)]] }

/-- Reads a line of the input. -/
def readInputLine (raw : Bool) : Stream → InputLine
  | [] => ⟨[[]], [], false⟩
  | '\\' :: c :: rest =>
    if raw then
      if c = '\n' then ⟨[[('\\', false)]], rest, true⟩
      else
        ((readInputLine raw rest).push c false).push '\\' false
    else
      let l := readInputLine raw rest
      if c = '\n' then { l with pieces := [] :: l.pieces }
      else l.push c true
  | c :: rest =>
    if c = '\n' then ⟨[[]], rest, true⟩
    else if c = '\\' && !raw then ⟨[[]], rest, false⟩
    else (readInputLine raw rest).push c false

/-- The octets of a piece as chunks, of which those behind a backslash are not
split. -/
def chunksOf : List (Char × Bool) → List Chunk
  | [] => [.split false []]
  | (c, quoted) :: rest =>
    if quoted then
      .split false [] :: .fixed [.octet c true] :: chunksOf rest
    else
      match chunksOf rest with
      | .split z atoms :: more => .split z (.octet c false :: atoms) :: more
      | more => .split false [.octet c false] :: more

/-- `read`: a line of the input, its fields given to variables, the last of
which gets all that is left. -/
def read : Builtin := fun arguments => do
  let (os, names) ← options [('p', true), ('r', false)] none arguments
  if names.isEmpty then fail "arg count".toList
  let raw := os.any (·.1 = 'r')
  let (line, status) ← do
    match ← descriptor? 0 with
    | none => pure (⟨[[]], [], false⟩, 1)
    | some id =>
      match ← lookAhead id with
      | .error _ => pure (⟨[[]], [], false⟩, 1)
      | .ok text =>
        let line := readInputLine raw text
        pass id (text.length - line.rest.length)
        pure (line, if line.ended then 0 else 1)
  let plain (p : List (Char × Bool)) : List (Char × Bool) :=
    p.filter (·.1 ≠ '\x00')
  let chunks := line.pieces.flatMap fun p => chunksOf (plain p)
  let fields := fieldsOf (← separators) (some names.length) chunks
  for (name, i) in names.zipIdx do
    assign name (Atom.text ((fields[i]?).getD []))
  return status

end ApiContract.Shell.Builtin
