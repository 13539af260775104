/-
What the tools of the shell have in common: options, quoted names in messages,
operands, and sizes with a letter for a power of ten or two.

Options and operands may stand in any order, two signs end the options, and a
long option may be cut short as long as it is clear which one is meant. What
is wrong is told after the options before it have had their effect.
-/
import ApiContract.Shell.Arithmetic
import ApiContract.Shell.State

namespace ApiContract.Shell

/-- A tool: from the name it is called by and its arguments to its status. -/
abbrev Tool := Stream → List Stream → Action Nat

namespace Tool

-- ================================================================= quoting

/-- A character that prints. -/
def isPrinting (c : Char) : Bool := ' ' ≤ c && c ≤ '~'

/-- An octet as a backslash and three octal digits, or its letter. -/
def escaped (c : Char) : Stream :=
  match c with
  | '\x07' => ['\\', 'a']
  | '\x08' => ['\\', 'b']
  | '\x0c' => ['\\', 'f']
  | '\n' => ['\\', 'n']
  | '\r' => ['\\', 'r']
  | '\t' => ['\\', 't']
  | '\x0b' => ['\\', 'v']
  | c =>
    let ds := Nat.toDigits 8 c.toNat
    '\\' :: (List.replicate (3 - ds.length) '0' ++ ds)

/-- A text between single quotes, with escapes. -/
def quoted (s : Stream) : Stream :=
  let inside := s.flatMap fun c =>
    if c = '\'' || c = '\\' then ['\\', c]
    else if isPrinting c then [c]
    else escaped c
  '\'' :: (inside ++ ['\''])

/-- A character that stands for itself in a command line, at its start or
further on. -/
def isBare (first : Bool) (c : Char) : Bool :=
  c.isAlphanum || ['{', '}'].contains c || "%+,-./_]@".toList.contains c
    || (!first && (c = '#' || c = '~'))

/-- A text can stand in a command line as it is. -/
def isBareText (s : Stream) : Bool :=
  match s with
  | [] => false
  | c :: rest =>
    isBare true c && rest.all (isBare false)
      && s ≠ ['{'] && s ≠ ['}']

/-- A name as a word of a command line. -/
def quotedWord (s : Stream) : Stream :=
  if s.contains '\'' && s.all fun c =>
      c = '\'' || isBare false c || c = ' ' || c = ':' then
    '"' :: (s ++ ['"'])
  else
    '\'' :: inside true s
where
  /-- The inside of a word between quotes, which are changed for octets that
  do not print. -/
  inside : Bool → Stream → Stream
    | _, [] => ['\'']
    | plain, c :: rest =>
      if isPrinting c then
        let lead : Stream := if plain then [] else ['\'', '\'']
        let this : Stream := if c = '\'' then "'\\''".toList else [c]
        lead ++ this ++ inside true rest
      else
        let lead : Stream := if plain then "'$'".toList else []
        lead ++ escaped c ++ inside false rest

/-- A name in a message: as it is, or as a word of a command line. -/
def named (s : Stream) : Stream := if isBareText s then s else quotedWord s

-- =============================================================== messages

/-- A message of a tool. -/
def tell (tool : Stream) (message : Stream) : Action Unit :=
  Action.say (tool ++ [':', ' '] ++ message ++ ['\n'])

/-- The advice behind a message about how a tool is called. -/
def advise (tool : Stream) : Action Unit :=
  Action.say ("Try '".toList ++ tool
    ++ " --help' for more information.\n".toList)

/-- The output of a tool that is done; its status unless that fails. -/
def finish (tool : Stream) (output : Stream) (status : Nat) :
    Action Nat := do
  match ← Action.emit 1 output with
  | .ok () => return status
  | .error fault =>
    tell tool ("write error: ".toList ++ fault.words.toList)
    return 1

-- ================================================================ options

/-- Whether an option takes a value. -/
inductive OptionValue where
  | none
  | required
  | optional
  deriving DecidableEq

/-- An option: the letter that tells it, whether it is also given by that
letter, its long name, if any, and its value. -/
structure OptionForm where
  letter : Char
  isShort : Bool
  name : Stream
  value : OptionValue

/-- An option that is given by its letter alone. -/
def OptionForm.short (letter : Char) (value : OptionValue := .none) :
    OptionForm := ⟨letter, true, [], value⟩

/-- An option that is given by its letter or a name. -/
def OptionForm.both (letter : Char) (name : String)
    (value : OptionValue := .none) : OptionForm :=
  ⟨letter, true, name.toList, value⟩

/-- An option that is given by a name. -/
def OptionForm.long (letter : Char) (name : String)
    (value : OptionValue := .none) : OptionForm :=
  ⟨letter, false, name.toList, value⟩

/-- Arguments taken apart: options with their values, operands, and what is
wrong with the next one. -/
structure Arguments where
  options : List (Char × Stream) := []
  operands : List Stream := []
  fault : Option Stream := none

/-- The option of this letter is among them. -/
def Arguments.has (a : Arguments) (letter : Char) : Bool :=
  a.options.any (·.1 = letter)

/-- The options that a long name may mean: those of exactly this name, or
those that begin with it. -/
def candidates (forms : List OptionForm) (name : Stream) : List OptionForm :=
  match forms.filter fun f => f.name = name && !name.isEmpty with
  | [] => forms.filter fun f => name.isPrefixOf f.name && !f.name.isEmpty
  | exact => exact

/-- A long name with its signs and quotes. -/
def longQuoted (name : Stream) : Stream :=
  "'--".toList ++ name ++ ['\'']

/-- What an argument with options comes to: the options with their values,
and perhaps one that takes the next argument (with what is said when there is
none), or what is wrong. -/
structure OptionStep where
  options : List (Char × Stream) := []
  waiting : Option (Char × Stream) := none
  fault : Option Stream := none

/-- A long option. -/
def readLong (forms : List OptionForm) (text : Stream) : OptionStep :=
  let (name, value) : Stream × Option Stream :=
    match text.span (· ≠ '=') with
    | (name, _ :: value) => (name, some value)
    | (name, []) => (name, none)
  let wrong (message : Stream) : OptionStep :=
    { fault := some ("option ".toList ++ message) }
  match candidates forms name with
  | [] =>
    { fault := some ("unrecognized option '--".toList ++ text ++ ['\'']) }
  | form :: others =>
    if others.all (·.letter = form.letter) then
      match form.value, value with
      | .none, some _ =>
        wrong (longQuoted form.name ++ " doesn't allow an argument".toList)
      | .required, none =>
        { waiting := some (form.letter, "option ".toList
            ++ longQuoted form.name ++ " requires an argument".toList) }
      | _, value => { options := [(form.letter, value.getD [])] }
    else
      wrong (longQuoted name ++ " is ambiguous; possibilities:".toList
        ++ (form :: others).flatMap fun f => ' ' :: longQuoted f.name)

/-- Options by their letters. -/
def readLetters (forms : List OptionForm) : Stream → OptionStep
  | [] => {}
  | c :: cs =>
    match forms.find? fun f => f.isShort && f.letter = c with
    | none =>
      { fault := some ("invalid option -- '".toList ++ [c, '\'']) }
    | some form =>
      match form.value, cs with
      | .none, cs =>
        let step := readLetters forms cs
        { step with options := (c, []) :: step.options }
      | .required, [] =>
        { waiting := some (c, "option requires an argument -- '".toList
            ++ [c, '\'']) }
      | _, cs => { options := [(c, cs)] }

/-- Arguments taken apart, of which the first may be the value of an option.
With `inOrder` the first operand ends the options. -/
def readArguments (forms : List OptionForm) (inOrder : Bool) :
    Option (Char × Stream) → List Stream → Arguments
  | none, [] => {}
  | some (_, missing), [] => { fault := some missing }
  | some (c, _), value :: rest =>
    let more := readArguments forms inOrder none rest
    { more with options := (c, value) :: more.options }
  | none, argument :: rest =>
    let step? : Option OptionStep :=
      match argument with
      | '-' :: '-' :: text => some (readLong forms text)
      | '-' :: c :: cs => some (readLetters forms (c :: cs))
      | _ => none
    if argument = ['-', '-'] then { operands := rest }
    else
      match step? with
      | none =>
        if inOrder then { operands := argument :: rest }
        else
          let more := readArguments forms inOrder none rest
          { more with operands := argument :: more.operands }
      | some step =>
        if step.fault.isSome then
          { options := step.options, fault := step.fault }
        else
          let more := readArguments forms inOrder step.waiting rest
          { more with options := step.options ++ more.options }

/-- What is wrong with how a tool is called, told with the advice. -/
def refuse (tool : Stream) (message : Stream) : Action Nat := do
  tell tool message
  advise tool
  return 1

-- =============================================================== operands

/-- What an operand stands for among the things opened: the input for a
single sign, else a file. -/
def openOperand (operand : Stream) : Action (Except FileFault Nat) := do
  if operand = ['-'] then
    match ← Action.descriptor? 0 with
    | some id => return .ok id
    | none => return .error Action.badDescriptor
  else Action.openPath operand .read

/-- The operands of a tool, or its input when there are none. -/
def orInput (operands : List Stream) : List Stream :=
  if operands.isEmpty then [['-']] else operands

-- ================================================================== sizes

/-- The factor that letters behind a number stand for. -/
def sizeFactor? (letters : Stream) : Option Nat :=
  match letters with
  | [] => some 1
  | ['b'] => some 512
  | c :: rest =>
    let powers : Stream := ['K', 'M', 'G', 'T', 'P', 'E', 'Z', 'Y', 'R', 'Q']
    let letter := if c = 'k' then 'K' else if c = 'm' then 'M' else c
    match powers.findIdx? (· = letter), rest with
    | some i, [] | some i, ['i', 'B'] => some (Nat.pow 1024 (i + 1))
    | some i, ['B'] => some (Nat.pow 1000 (i + 1))
    | _, _ => none

/-- Why a size cannot be read. -/
inductive SizeFault where
  | malformed
  | tooLarge

/-- A number with letters behind it that make it greater. -/
def readSize (s : Stream) : Except SizeFault Nat :=
  let s := s.dropWhile Stream.isSpace
  let s := match s with
    | '+' :: c :: rest => if c.isDigit then c :: rest else s
    | s => s
  let ds := s.takeWhile Char.isDigit
  let letters := s.drop ds.length
  let bare := ds.isEmpty && letters.isEmpty
  match sizeFactor? letters with
  | none => .error .malformed
  | some factor =>
    let n := (if ds.isEmpty then 1 else Arithmetic.valueOf 10 ds) * factor
    if bare then .error .malformed
    else if Nat.pow 2 64 ≤ n then .error .tooLarge
    else .ok n

/-- What is told about a size that cannot be read. -/
def SizeFault.message (what : String) (s : Stream) (f : SizeFault) : Stream :=
  ("invalid number of " ++ what ++ ": ").toList ++ quoted s
    ++ match f with
      | malformed => []
      | tooLarge => ": Value too large for defined data type".toList

end Tool

end ApiContract.Shell
