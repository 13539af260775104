/-
Expanding words: parameters, the output of commands and arithmetic take the
place of what stands for them; then, where words may become several, the
result is split into fields and fields with patterns become the names of the
files that match them.

Commands in a word are run by the shell, so what runs them is given here.
-/
import ApiContract.Shell.Arithmetic
import ApiContract.Shell.Field
import ApiContract.Shell.State

namespace ApiContract.Shell

/-- What runs commands for the output they write. -/
abbrev Substitution := List Command → Action Stream

/-- How words are expanded: to fields or to one text, and whether text that
is not quoted may be split too. -/
structure Manner where
  fields : Bool
  within : Bool := false

namespace Action

-- ============================================================= parameters

/-- The octets that separate fields. -/
def separators : Action Stream := do
  return ((← get).vars.lookup "IFS".toList).bind (·.value)
    |>.getD [' ', '\t', '\n']

/-- The number by which the shell calls itself. -/
def ownNumber : Stream := ['1']

/-- The parameters of the shell as one text. Where they are to become fields,
zeros stand between them. -/
def joinedParameters (zeros : Bool) : Action Stream := do
  let between ← do
    if zeros then pure ['\x00'] else return (← separators).take 1
  return List.intercalate between (← get).parameters

/-- The value of a parameter. -/
def parameter? (m : Manner) (name : Stream) (quoted : Bool) :
    Action (Option Stream) := do
  let s ← get
  match name with
  | ['@'] =>
    if s.parameters.isEmpty then return none
    return some (← joinedParameters m.fields)
  | ['*'] =>
    if s.parameters.isEmpty then return none
    return some (← joinedParameters (m.fields && !quoted))
  | ['#'] => return some (Stream.ofNat s.parameters.length)
  | ['?'] => return some (Stream.ofNat s.status)
  | ['$'] => return some ownNumber
  | ['!'] => return s.finished.head?.map (·.1)
  | ['-'] => return some s.options
  | ['0'] => return some ['s', 'h']
  | _ =>
    match Stream.number? name with
    | some n => return s.parameters[n - 1]?
    | none => valueOf? name

/-- A parameter that must be there is not. -/
def missing {α : Type} (name : Stream) (evenNull : Bool) : Action α :=
  fail (name ++ ": parameter not set".toList
    ++ (if evenNull then " or null".toList else []))

/-- A value as it stands in a word. -/
def valueChunk (name : Stream) (quoted : Bool) (value : Stream) :
    Action (List Chunk) := do
  let atoms := Atom.ofText value quoted
  if !quoted then return [.split false atoms]
  else if name = ['@'] && !(← get).parameters.isEmpty then
    return [.split true atoms]
  else return [.fixed atoms]

/-- The octets of chunks. -/
def chunkText (chunks : List Chunk) : Stream :=
  Atom.text (chunks.flatMap (·.atoms))

/-- The value of an arithmetic expression, with what it assigns done. -/
def calculate (text : Stream) : Action Int := do
  let s ← get
  let look (name : Stream) : Except Stream Int :=
    match (s.vars.lookup name).bind (·.value) with
    | none => .ok 0
    | some [] => .ok 0
    | some v =>
      match Arithmetic.readSigned? v with
      | some (i, rest) =>
        if rest.all Stream.isSpace then .ok i
        else .error ("Illegal number: ".toList ++ v)
      | none => .error ("Illegal number: ".toList ++ v)
  match Arithmetic.value { text, look } with
  | .ok (i, assigned) =>
    for (name, value) in assigned.reverse do
      assign name (Stream.ofInt value)
    return i
  | .error message => fail message

-- ================================================================== parts

mutual

/-- The chunks of a part. -/
def expandPart (run : Substitution) (m : Manner) : Part → Action (List Chunk)
  | .text s quoted =>
    let atoms := Atom.ofText s quoted
    return if m.within && !quoted then [.split false atoms]
      else [.fixed atoms]
  | .quotes => return [.fixed [.mark]]
  | .double [.parameter ['@'] .value n w q] =>
    expandPart run m (.parameter ['@'] .value n w q)
  | .double parts => do
    return .fixed [.mark] :: (← expandParts run m parts)
  | .parameter name u evenNull word quoted => do
    let value ← parameter? m name quoted
    let there := value.filter fun v => !(evenNull && v.isEmpty)
    let unset := (← get).options.contains 'u' && value.isNone
      && name ≠ ['@'] && name ≠ ['*']
    match u with
    | .value =>
      if unset then missing name false
      valueChunk name quoted (value.getD [])
    | .length =>
      if unset then missing name false
      valueChunk [] quoted (Stream.ofNat (value.getD []).length)
    | .orElse =>
      match there with
      | some v => valueChunk name quoted v
      | none => expandParts run { m with within := true } word
    | .ifThere =>
      match there with
      | some _ => expandParts run { m with within := true } word
      | none => return []
    | .orAssign =>
      match there with
      | some v => valueChunk name quoted v
      | none => do
        let v := chunkText (← expandParts run ⟨false, false⟩ word)
        assign name v
        valueChunk name quoted v
    | .orFail =>
      match there with
      | some v => valueChunk name quoted v
      | none => do
        let message := chunkText (← expandParts run ⟨false, false⟩ word)
        if message.isEmpty then missing name evenNull
        fail (name ++ [':', ' '] ++ message)
    | .cut atEnd longest =>
      if unset then missing name false
      let pattern :=
        (← expandParts run ⟨false, false⟩ word).flatMap (·.atoms)
      valueChunk name quoted
        (cutGlob atEnd longest (Atom.pattern pattern) (value.getD []))
    | .broken => fail "Bad substitution".toList
  | .output commands quoted => do
    let text := (← run commands).filter (· ≠ '\x00')
    valueChunk [] quoted
      (text.reverse.dropWhile (· = '\n')).reverse
  | .arithmetic word quoted => do
    let text := chunkText (← expandParts run ⟨false, false⟩ word)
    valueChunk [] quoted (Stream.ofInt (← calculate text))

/-- The chunks of parts. -/
def expandParts (run : Substitution) (m : Manner) :
    List Part → Action (List Chunk)
  | [] => return []
  | p :: ps => do
    let chunks ← expandPart run m p
    return chunks ++ (← expandParts run m ps)

end

/-- A tilde at the start of a word stands for the home directory. -/
def expandHome (w : Word) : Action Word := do
  match w with
  | .text ('~' :: s) false :: rest =>
    if (s.isEmpty && rest.isEmpty) || s.head? = some '/' then
      match ← valueOf? "HOME".toList with
      | some home => return .text home true :: .text s false :: rest
      | none => return w
    else return w
  | w => return w

/-- A word as one text. -/
def expandText (run : Substitution) (w : Word) : Action Stream := do
  return chunkText (← expandParts run ⟨false, false⟩ (← expandHome w))

/-- A word as one pattern. -/
def expandPattern (run : Substitution) (w : Word) : Action (List Marked) := do
  let chunks ← expandParts run ⟨false, false⟩ (← expandHome w)
  return Atom.pattern (chunks.flatMap (·.atoms))

-- ============================================================= file names

/-- The names in a directory that match a pattern. A name that begins with a
dot takes a pattern that does. -/
def matchingNames (directory : Stream) (pattern : List Marked) :
    Action (List Stream) := do
  let path ← resolve (if directory.isEmpty then ['.'] else directory)
  match ← access (.list path .done) with
  | .error _ => return []
  | .ok names =>
    let dotted := pattern.head?.any (·.1 = '.')
    return (['.'] :: ['.', '.'] :: names.map Stream.ofText).filter fun n =>
      (dotted || n.head? ≠ some '.') && globMatches pattern n

/-- The parts of a pattern between its slashes. -/
def segmentsOf : List Marked → List (List Marked)
  | [] => [[]]
  | (c, quoted) :: cs =>
    if c = '/' then [] :: segmentsOf cs
    else
      match segmentsOf cs with
      | s :: ss => ((c, quoted) :: s) :: ss
      | [] => [[(c, quoted)]]

/-- The paths that match, behind the part that is settled. -/
def matchingPaths (settled : Stream) : List (List Marked) →
    Action (List Stream)
  | [] => return []
  | [last] => do
    if isGlob last then
      return (← matchingNames settled last).map (settled ++ ·)
    else
      let path := settled ++ last.map (·.1)
      return if ← isThere path then [path] else []
  | segment :: rest => do
    let names ←
      if isGlob segment then matchingNames settled segment
      else pure [segment.map (·.1)]
    let mut paths := []
    for name in names do
      paths := paths ++ (← matchingPaths (settled ++ name ++ ['/']) rest)
    return paths

/-- A field as it is, or the paths that match it, in the order of their
octets. -/
def expandPaths (field : List Atom) : Action (List Stream) := do
  let pattern := Atom.pattern field
  if isGlob pattern && !(← get).options.contains 'f' then
    let paths ← matchingPaths [] (segmentsOf pattern)
    if paths.isEmpty then return [Atom.text field]
    return paths.mergeSort fun a b => !decide (b < a)
  else return [Atom.text field]

/-- A word as the fields it becomes. -/
def expandFields (run : Substitution) (w : Word) : Action (List Stream) := do
  let chunks ← expandParts run ⟨true, false⟩ (← expandHome w)
  let fields := fieldsOf (← separators) none chunks
  return (← fields.mapM expandPaths).flatten

end Action

end ApiContract.Shell
