/-
Reading shell commands. A command line is read and run piece by piece: a
piece ends with the line on which its last command ends, so what comes after
a fault has been carried out before the fault is told.

A fault says which token stands where none of its kind may stand, and for the
closing word of a compound command which one is missing. Lines are counted as
they are read, those in quotes and here-documents too; a command between
backquotes counts its own.
-/
import ApiContract.Shell.Command

namespace ApiContract.Shell

/-- Why something cannot be read, and on which line. -/
structure Unreadable where
  line : Nat
  message : String
  deriving DecidableEq, Repr

-- ================================================================ tokens

/-- What a redirection sign asks for, before what it names is read. -/
inductive Sign where
  | file (how : Opening)
  | descriptor
  | document (tabs : Bool)

/-- A token. -/
inductive Token where
  | endOfFile
  | newline
  | semicolon
  | background
  | both
  | either
  | pipe
  | openParen
  | closeParen
  | endArm
  | redirection (descriptor : Nat) (sign : Sign)
  | word (w : Word)
  | keyword (k : String)

namespace Token

/-- A token in messages. -/
def name : Token → String
  | endOfFile => "end of file"
  | newline => "newline"
  | semicolon => "\";\""
  | background => "\"&\""
  | both => "\"&&\""
  | either => "\"||\""
  | pipe => "\"|\""
  | openParen => "\"(\""
  | closeParen => "\")\""
  | endArm => "\";;\""
  | redirection .. => "redirection"
  | word _ => "word"
  | keyword k => "\"" ++ k ++ "\""

/-- The token ends a list of commands. -/
def endsList : Token → Bool
  | endOfFile | closeParen | endArm => true
  | keyword k =>
    ["do", "done", "elif", "else", "esac", "fi", "then", Text.closeBrace].contains k
  | _ => false

/-- The token is this keyword. -/
def isKeyword (k : String) : Token → Bool
  | keyword l => k = l
  | _ => false

end Token

-- ================================================================ states

/-- A here-document whose text is still to come. -/
structure Pending where
  number : Nat
  mark : Stream
  tabs : Bool
  quoted : Bool

/-- Where reading stands. `documents` holds the texts of here-documents by
their numbers, of which `count` are given out. -/
structure Reading where
  rest : Stream
  line : Nat := 1
  pushed : Option Token := none
  pending : List Pending := []
  documents : List (Nat × Word) := []
  count : Nat := 0

/-- Reading something. -/
abbrev Reader := StateT Reading (Except Unreadable)

namespace Reader

/-- A fault on the line that has been reached. -/
def fault {α : Type} (message : String) : Reader α := do
  throw ⟨(← get).line, "Syntax error: " ++ message⟩

/-- The token must not stand here; perhaps another one is expected. -/
def unexpected {α : Type} (t : Token) (expected : Option Token) : Reader α :=
  fault (t.name ++ " unexpected"
    ++ (expected.map fun e => " (expecting " ++ e.name ++ ")").getD "")

/-- Drops line ends that a backslash stands before. -/
def dropJoins (s : Stream) (line : Nat) : Stream × Nat :=
  go s line s.length
where
  /-- Drops them, with a bound on their number. -/
  go (s : Stream) (line : Nat) : Nat → Stream × Nat
    | 0 => (s, line)
    | fuel + 1 =>
      match s with
      | '\\' :: '\n' :: rest => go rest (line + 1) fuel
      | s => (s, line)

/-- Goes on behind line ends that a backslash stands before. -/
def join : Reader Unit :=
  modify fun r =>
    let (rest, line) := dropJoins r.rest r.line
    { r with rest, line }

/-- The next character of a logical line. -/
def peek : Reader (Option Char) := do
  join
  return (← get).rest.head?

/-- Goes on behind `n` characters. -/
def skip (n : Nat) : Reader Unit :=
  modify fun r =>
    { r with
      rest := r.rest.drop n
      line := r.line + ((r.rest.take n).filter (· = '\n')).length }

/-- The characters of a class that come next. -/
def run (f : Char → Bool) : Reader Stream := do
  let cs := (← get).rest.takeWhile f
  skip cs.length
  return cs

/-- The characters of a class that come next on a logical line. -/
def runJoined (f : Char → Bool) : Nat → Reader Stream
  | 0 => return []
  | fuel + 1 => do
    let c ← peek
    if c.any f then
      let cs ← run f
      return cs ++ (← runJoined f fuel)
    else return []

/-- Goes on behind this character, if it is the next one. -/
def accept (c : Char) : Reader Bool := do
  if (← peek) = some c then
    skip 1
    return true
  else return false

end Reader

open Reader

-- ================================================================= words

/-- Where a part of a word stands: outside quotes, in the word of a
parameter, between double quotes, on a line of a here-document, or in
arithmetic with so many parentheses open. -/
inductive Place where
  | bare
  | braced
  | quoted
  | quotedBraced (document inner : Bool)
  | document
  | arithmetic (level : Nat)
  deriving DecidableEq

namespace Place

/-- What stands here counts as quoted. -/
def isQuoted : Place → Bool
  | bare | braced => false
  | _ => true

/-- A character that ends a word outside quotes. -/
def endsWord (c : Char) : Bool :=
  ['\n', ' ', '\t', '<', '>', '(', ')', ';', '&', '|'].contains c

/-- A character without a meaning of its own in this place. -/
def isPlain (p : Place) (c : Char) : Bool :=
  !(['$', '\x60', '\\'].contains c || match p with
    | bare => endsWord c || c = '\'' || c = '"'
    | braced => c = '\'' || c = '"' || c = '}'
    | quoted => c = '"'
    | quotedBraced .. => c = '"' || c = '}'
    | document => c = '\n'
    | arithmetic _ => c = '(' || c = ')')

/-- A backslash before this character stands for itself. -/
def keepsBackslash (p : Place) (c : Char) : Bool :=
  p.isQuoted && !(['\\', '\x60', '$'].contains c)
    && (c ≠ '"' || p = document)
    && !(c = '}' && match p with | quotedBraced .. => true | _ => false)

/-- What is missing when the text ends here. -/
def missing : Place → String
  | arithmetic _ => "Missing '))'"
  | quoted | quotedBraced false _ => "Unterminated quoted string"
  | _ => "Missing '" ++ Text.closeBrace ++ "'"

end Place

/-- A text as a part, if there is any. -/
def textPart (s : Stream) (quoted : Bool) : List Part :=
  if s.isEmpty then [] else [.text s quoted]

/-- A character that stands for a parameter of the shell. -/
def isSpecial (c : Char) : Bool :=
  ['!', '#', '?', '*', '@', '$', '-'].contains c || c.isDigit

/-- The name in a pair of braces, and whether its length is asked for; none
when there is no name. -/
def readBracedName (fuel : Nat) : Reader (Option (Stream × Bool)) := do
  let plain (length : Bool) : Reader (Option (Stream × Bool)) := do
    match ← peek with
    | some c =>
      if Stream.isNameStart c then
        return some (← runJoined Stream.isNameChar fuel, length)
      else if c.isDigit then
        return some (← runJoined Char.isDigit fuel, length)
      else return none
    | none => return none
  match ← peek with
  | some '#' =>
    skip 1
    match ← peek with
    | some c =>
      if Stream.isNameChar c then plain true
      else if c = '}' then return some (['#'], false)
      else
        let saved ← get
        skip 1
        if (← peek) = some '}' then
          if isSpecial c then return some ([c], true)
          else
            set saved
            skip 1
            return none
        else
          set saved
          return some (['#'], false)
    | none => return some (['#'], false)
  | some c =>
    if Stream.isNameChar c then plain false
    else if c = '}' then return none
    else if isSpecial c then
      skip 1
      return some ([c], false)
    else
      skip 1
      return none
  | none => return none

/-- What is done with a parameter in braces, and whether it is done also to
one that is there and null; none when nothing is and the brace is closed. -/
def readUse : Reader (Option (Use × Bool)) := do
  let evenNull ← accept ':'
  match ← peek with
  | some '}' =>
    skip 1
    return if evenNull then some (.value, true) else none
  | some '-' => skip 1; return some (.orElse, evenNull)
  | some '+' => skip 1; return some (.ifThere, evenNull)
  | some '?' => skip 1; return some (.orFail, evenNull)
  | some '=' => skip 1; return some (.orAssign, evenNull)
  | some c =>
    skip 1
    if !evenNull && (c = '%' || c = '#') then
      let longest ← accept c
      return some (.cut (c = '%') longest, false)
    else return some (.broken, false)
  | none => return some (.broken, false)

/-- The text between backquotes, up to the closing one. A backslash keeps its
sense for most characters. -/
def readBackquoted (quoted : Bool) : Nat → Reader Stream
  | 0 => return []
  | fuel + 1 => do
    match ← peek with
    | none => fault "EOF in backquote substitution"
    | some '\x60' => skip 1; return []
    | some '\\' =>
      skip 1
      match (← get).rest.head? with
      | none => return '\\' :: (← readBackquoted quoted fuel)
      | some c =>
        skip 1
        let rest ← readBackquoted quoted fuel
        if ['\\', '\x60', '$'].contains c || (quoted && c = '"') then
          return c :: rest
        else return '\\' :: c :: rest
    | some _ =>
      let cs ← run fun c => c ≠ '\x60' && c ≠ '\\'
      return cs ++ (← readBackquoted quoted fuel)

/-- The line is the mark of a here-document; the text behind it. -/
def behindMark? (mark rest : Stream) : Option Stream :=
  if mark.isPrefixOf rest then
    match rest.drop mark.length with
    | [] => some []
    | '\n' :: rest => some rest
    | _ => none
  else none

/-- The lines of a here-document in which nothing has a meaning. -/
def readPlainDocument (mark : Stream) (tabs : Bool) : Nat → Reader Stream
  | 0 => return []
  | fuel + 1 => do
    if tabs then
      let _ ← run (· = '\t')
    let r ← get
    match behindMark? mark r.rest with
    | some rest =>
      set { r with rest, line := r.line + 1 }
      return []
    | none =>
      if r.rest.isEmpty then return []
      let l ← run (· ≠ '\n')
      let more := (← get).rest
      skip 1
      return l ++ more.take 1 ++ (← readPlainDocument mark tabs fuel)

mutual

/-- The parts of a word up to its end, which is passed over when a character
makes it. -/
def readParts (place : Place) : Nat → Reader Word
  | 0 => fault "Word too long"
  | fuel + 1 => do
    let next ← peek
    let onward (parts : Word) : Reader Word := do
      return parts ++ (← readParts place fuel)
    let plainChar (c : Char) : Reader Word := do
      skip 1
      onward [.text [c] place.isQuoted]
    match next with
    | none =>
      match place with
      | .bare | .document => return []
      | _ => fault place.missing
    | some c =>
      if place.isPlain c then
        let s ← run place.isPlain
        onward [.text s place.isQuoted]
      else if c = '\\' then
        skip 1
        match (← get).rest.head? with
        | none => onward [.text ['\\'] true]
        | some d =>
          skip 1
          let s := if place.keepsBackslash d then ['\\', d] else [d]
          onward (.quotes :: [.text s true])
      else if c = '$' then
        skip 1
        let p ← readDollar place fuel
        onward p
      else if c = '\x60' then
        skip 1
        let inside ← readBackquoted place.isQuoted fuel
        let r ← get
        set { r with rest := inside, line := 1, pending := [] }
        let body ← readList true true fuel
        readDocuments fuel
        modify fun q =>
          { q with
            rest := r.rest, line := r.line, pending := r.pending
            pushed := none }
        onward [.output body place.isQuoted]
      else
        match place with
        | .bare =>
          if c = '\'' then
            skip 1
            let p ← readSingle
            onward p
          else if c = '"' then
            skip 1
            let p ← readParts .quoted fuel
            onward [.double p]
          else return []
        | .braced =>
          if c = '\'' then
            skip 1
            let p ← readSingle
            onward p
          else if c = '"' then
            skip 1
            let p ← readParts .quoted fuel
            onward [.double p]
          else
            skip 1
            return []
        | .quoted =>
          skip 1
          return []
        | .quotedBraced document inner =>
          if c = '"' then
            skip 1
            return .quotes
              :: (← readParts (.quotedBraced document !inner) fuel)
          else if inner then plainChar c
          else
            skip 1
            return []
        | .document =>
          skip 1
          return [.text ['\n'] true]
        | .arithmetic level =>
          skip 1
          if c = '(' then
            return .text ['('] true
              :: (← readParts (.arithmetic (level + 1)) fuel)
          else if level ≠ 0 then
            return .text [')'] true
              :: (← readParts (.arithmetic (level - 1)) fuel)
          else if ← accept ')' then return []
          else onward [.text [')'] true]
termination_by structural n => n

/-- A text between single quotes, behind the first. -/
def readSingle : Reader Word := do
  let s ← run (· ≠ '\'')
  if (← get).rest.isEmpty then fault "Unterminated quoted string"
  skip 1
  return .quotes :: textPart s true

/-- What stands behind a dollar sign. -/
def readDollar (place : Place) : Nat → Reader Word
  | 0 => fault "Word too long"
  | fuel + 1 => do
    let quoted := place.isQuoted
    match ← peek with
    | some '(' =>
      skip 1
      if ← accept '(' then
        let w ← readParts (.arithmetic 0) fuel
        return [.arithmetic w quoted]
      else
        let saved := (← get).pending
        modify fun r => { r with pending := [] }
        let body ← readList true true fuel
        match ← readToken false false fuel with
        | .closeParen => pure ()
        | t => unexpected t (some .closeParen)
        readDocuments fuel
        modify fun r => { r with pending := saved }
        return [.output body quoted]
    | some '{' =>
      skip 1
      let word (u : Use) : Reader Word := do
        let inside : Place :=
          match u, place with
          | .cut .., _ => .braced
          | _, .bare | _, .braced => .braced
          | _, .document | _, .quotedBraced true _ => .quotedBraced true false
          | _, _ => .quotedBraced false false
        readParts inside fuel
      match ← readBracedName fuel with
      | none =>
        let w ← word .broken
        return [.parameter [] .broken false w quoted]
      | some (name, true) =>
        let closed := (← peek) = some '}'
        let u : Use := if closed then .length else .broken
        let w ← word u
        return [.parameter name u false w quoted]
      | some (name, false) =>
        match ← readUse with
        | none => return [.parameter name .value false [] quoted]
        | some (u, evenNull) =>
          let w ← word u
          return [.parameter name u evenNull w quoted]
    | some c =>
      if Stream.isNameStart c then
        let name ← runJoined Stream.isNameChar fuel
        return [.parameter name .value false [] quoted]
      else if isSpecial c then
        skip 1
        return [.parameter [c] .value false [] quoted]
      else return [.text ['$'] quoted]
    | none => return [.text ['$'] quoted]
termination_by structural n => n

/-- The texts of the here-documents that are pending. -/
def readDocuments : Nat → Reader Unit
  | 0 => return ()
  | fuel + 1 => do
    match (← get).pending with
    | [] => return ()
    | d :: rest =>
      modify fun r => { r with pending := rest }
      let w ←
        if d.quoted then do
          let s ← readPlainDocument d.mark d.tabs fuel
          pure (textPart s true)
        else readDocument d.mark d.tabs fuel
      modify fun r => { r with documents := (d.number, w) :: r.documents }
      readDocuments fuel
termination_by structural n => n

/-- The lines of a here-document in which parameters count. -/
def readDocument (mark : Stream) (tabs : Bool) : Nat → Reader Word
  | 0 => return []
  | fuel + 1 => do
    join
    if tabs then
      let _ ← run (· = '\t')
    let r ← get
    match behindMark? mark r.rest with
    | some rest =>
      set { r with rest, line := r.line + 1 }
      return []
    | none =>
      if r.rest.isEmpty then return []
      let l ← readParts .document fuel
      return l ++ (← readDocument mark tabs fuel)
termination_by structural n => n

/-- The next token. Line ends are passed over, and words with a meaning of
their own told apart, if asked for. -/
def readToken (newlines keywords : Bool) : Nat → Reader Token
  | 0 => fault "Word too long"
  | fuel + 1 => do
    match ← readBareToken false fuel with
    | .newline =>
      if newlines then
        readDocuments fuel
        readToken newlines keywords fuel
      else return .newline
    | .word w =>
      match keywords, w with
      | true, [.text s false] =>
        let k := String.ofList s
        return if Shell.keywords.contains k then .keyword k else .word w
      | _, _ => return .word w
    | t => return t
termination_by structural n => n

/-- The next token as it stands, or the one that was put back. In the mark of
a here-document the signs of parameters and commands have no meaning. -/
def readBareToken (mark : Bool) : Nat → Reader Token
  | 0 => fault "Word too long"
  | fuel + 1 => do
    match (← get).pushed with
    | some t =>
      modify fun r => { r with pushed := none }
      return t
    | none =>
      match ← peek with
      | none => return .endOfFile
      | some ' ' | some '\t' =>
        let _ ← run fun c => c = ' ' || c = '\t'
        readBareToken mark fuel
      | some '#' =>
        let _ ← run (· ≠ '\n')
        readBareToken mark fuel
      | some '\n' => skip 1; return .newline
      | some '&' => skip 1; return if ← accept '&' then .both else .background
      | some '|' => skip 1; return if ← accept '|' then .either else .pipe
      | some ';' =>
        skip 1
        return if ← accept ';' then .endArm else .semicolon
      | some '(' => skip 1; return .openParen
      | some ')' => skip 1; return .closeParen
      | some _ =>
        let w ← if mark then readMark fuel else readParts .bare fuel
        let descriptor : Option (Option Nat) :=
          match w with
          | [] => some none
          | [.text [d] false] =>
            if d.isDigit then some (some (d.toNat - 0x30)) else none
          | _ => none
        match descriptor, ← peek with
        | some d, some '>' =>
          skip 1
          let sign ← readOutputSign
          return .redirection (d.getD 1) sign
        | some d, some '<' =>
          skip 1
          let sign ← readInputSign
          return .redirection (d.getD 0) sign
        | _, _ => return .word w
termination_by structural n => n

/-- The word that marks the end of a here-document. -/
def readMark : Nat → Reader Word
  | 0 => return []
  | fuel + 1 => do
    let onward (w : Word) : Reader Word := do return w ++ (← readMark fuel)
    match ← peek with
    | none => return []
    | some c =>
      if Place.bare.isPlain c || c = '$' then
        skip 1
        onward [.text [c] false]
      else if c = '\x60' then
        skip 1
        onward [.text [c] true]
      else if c = '\\' then
        skip 1
        match (← get).rest.head? with
        | none => onward [.text ['\\'] true]
        | some d =>
          skip 1
          onward [.text [d] true]
      else if c = '\'' then
        skip 1
        let w ← readSingle
        onward w
      else if c = '"' then
        skip 1
        let w ← readMarkQuoted fuel
        onward (.quotes :: w)
      else return []
termination_by structural n => n

/-- A text between double quotes in the mark of a here-document. -/
def readMarkQuoted : Nat → Reader Word
  | 0 => return []
  | fuel + 1 => do
    let onward (w : Word) : Reader Word := do
      return w ++ (← readMarkQuoted fuel)
    match ← peek with
    | none => fault Place.quoted.missing
    | some '"' => skip 1; return []
    | some '\\' =>
      skip 1
      match (← get).rest.head? with
      | none => onward [.text ['\\'] true]
      | some d =>
        skip 1
        onward [.text
          (if Place.quoted.keepsBackslash d then ['\\', d] else [d]) true]
    | some c =>
      skip 1
      onward [.text [c] true]
termination_by structural n => n

/-- A sign of output behind `>`. -/
def readOutputSign : Reader Sign := do
  if ← accept '>' then return .file .append
  else if ← accept '|' then return .file .clobber
  else if ← accept '&' then return .descriptor
  else return .file .write

/-- A sign of input behind `<`. -/
def readInputSign : Reader Sign := do
  if ← accept '<' then return .document (← accept '-')
  else if ← accept '&' then return .descriptor
  else if ← accept '>' then return .file .both
  else return .file .read

-- ============================================================== commands

/-- Commands one after another. Inside a compound command line ends count as
separators and a token that ends lists ends this one, which perhaps may be
empty; otherwise a line end ends it. -/
def readList (inside mayEnd : Bool) : Nat → Reader (List Command)
  | 0 => fault "Word too long"
  | fuel + 1 => do
    match ← readToken inside true fuel with
    | .newline =>
      readDocuments fuel
      return []
    | .endOfFile =>
      readDocuments fuel
      modify fun r => { r with pushed := some .endOfFile }
      return []
    | t =>
      modify fun r => { r with pushed := some t }
      if inside && mayEnd && t.endsList then return []
      let c ← readAlternatives fuel
      match ← readToken false false fuel with
      | .background => return .background c :: (← readList inside true fuel)
      | .semicolon => return c :: (← readList inside true fuel)
      | .newline =>
        modify fun r => { r with pushed := some .newline }
        return c :: (← readList inside true fuel)
      | .endOfFile =>
        readDocuments fuel
        modify fun r => { r with pushed := some .endOfFile }
        return [c]
      | t =>
        if !inside then unexpected t none
        modify fun r => { r with pushed := some t }
        return [c]
termination_by structural n => n

/-- Commands joined by `&&` and `||`. -/
def readAlternatives : Nat → Reader Command
  | 0 => fault "Word too long"
  | fuel + 1 => do
    let first ← readPipeline false fuel
    readFurther first fuel
termination_by structural n => n

/-- What `&&` and `||` join to a command. -/
def readFurther (first : Command) : Nat → Reader Command
  | 0 => return first
  | fuel + 1 => do
    match ← readToken false false fuel with
    | .both =>
      let second ← readPipeline true fuel
      readFurther (.both first second) fuel
    | .either =>
      let second ← readPipeline true fuel
      readFurther (.either first second) fuel
    | t =>
      modify fun r => { r with pushed := some t }
      return first
termination_by structural n => n

/-- A pipeline, perhaps negated. -/
def readPipeline (newlines : Bool) : Nat → Reader Command
  | 0 => fault "Word too long"
  | fuel + 1 => do
    let t ← readToken newlines true fuel
    let negated := t.isKeyword "!"
    if !negated then modify fun r => { r with pushed := some t }
    let first ← readCommand false fuel
    let stages ← readStages fuel
    let c := if stages.isEmpty then first else .pipeline (first :: stages)
    return if negated then .negated c else c
termination_by structural n => n

/-- The further stages of a pipeline. -/
def readStages : Nat → Reader (List Command)
  | 0 => return []
  | fuel + 1 => do
    match ← readToken false false fuel with
    | .pipe =>
      let c ← readCommand true fuel
      return c :: (← readStages fuel)
    | t =>
      modify fun r => { r with pushed := some t }
      return []
termination_by structural n => n

/-- The keyword that has to come now. -/
def expect (k : String) (newlines : Bool) : Nat → Reader Unit
  | 0 => fault "Word too long"
  | fuel + 1 => do
    let t ← readToken newlines newlines fuel
    if !t.isKeyword k then unexpected t (some (.keyword k))
termination_by structural n => n

/-- One command. -/
def readCommand (newlines : Bool) : Nat → Reader Command
  | 0 => fault "Word too long"
  | fuel + 1 => do
    let line := (← get).line
    match ← readToken newlines true fuel with
    | .keyword "if" =>
      let c ← readCondition fuel
      expect "fi" false fuel
      readRedirected line c fuel
    | .keyword "while" =>
      let test ← readList true false fuel
      expect "do" false fuel
      let body ← readList true false fuel
      expect "done" false fuel
      readRedirected line (.repeated false test body) fuel
    | .keyword "until" =>
      let test ← readList true false fuel
      expect "do" false fuel
      let body ← readList true false fuel
      expect "done" false fuel
      readRedirected line (.repeated true test body) fuel
    | .keyword "for" =>
      let c ← readLoop line fuel
      expect "done" false fuel
      readRedirected line c fuel
    | .keyword "case" =>
      let c ← readChoice line fuel
      readRedirected line c fuel
    | .openParen =>
      let body ← readList true false fuel
      match ← readToken false false fuel with
      | .closeParen => pure ()
      | t => unexpected t (some .closeParen)
      readRedirected line (.apart line body []) fuel
    | .keyword Text.openBrace =>
      let body ← readList true false fuel
      expect Text.closeBrace false fuel
      readRedirected line (.group body) fuel
    | .word w =>
      modify fun r => { r with pushed := some (.word w) }
      let line := (← get).line
      readSimple line [] [] [] fuel
    | .redirection d sign =>
      modify fun r => { r with pushed := some (.redirection d sign) }
      let line := (← get).line
      readSimple line [] [] [] fuel
    | t => unexpected t none
termination_by structural n => n

/-- A condition behind its keyword, up to the closing one. -/
def readCondition : Nat → Reader Command
  | 0 => fault "Word too long"
  | fuel + 1 => do
    let test ← readList true false fuel
    expect "then" false fuel
    let body ← readList true false fuel
    match ← readToken false false fuel with
    | .keyword "elif" => return .condition test body [← readCondition fuel]
    | .keyword "else" => return .condition test body (← readList true false fuel)
    | t =>
      modify fun r => { r with pushed := some t }
      return .condition test body []
termination_by structural n => n

/-- A loop over words behind its keyword, up to the closing one. -/
def readLoop (line : Nat) : Nat → Reader Command
  | 0 => fault "Word too long"
  | fuel + 1 => do
    let name ←
      match ← readToken false false fuel with
      | .word [.text s false] =>
        if Stream.isName s then pure s else fault "Bad for loop variable"
      | _ => fault "Bad for loop variable"
    let words ←
      match ← readToken true true fuel with
      | .keyword "in" => readLoopWords fuel
      | .semicolon => pure [[.parameter ['@'] .value false [] true]]
      | t => do
        modify fun r => { r with pushed := some t }
        pure [[.parameter ['@'] .value false [] true]]
    expect "do" true fuel
    return .loop line name words (← readList true false fuel)
termination_by structural n => n

/-- The words of a loop and the separator behind them. -/
def readLoopWords : Nat → Reader (List Word)
  | 0 => fault "Word too long"
  | fuel + 1 => do
    match ← readToken false false fuel with
    | .word w => return w :: (← readLoopWords fuel)
    | .newline | .semicolon => return []
    | t => unexpected t none
termination_by structural n => n

/-- A choice behind its keyword, with the closing one. -/
def readChoice (line : Nat) : Nat → Reader Command
  | 0 => fault "Word too long"
  | fuel + 1 => do
    match ← readToken false false fuel with
    | .word w =>
      expect "in" true fuel
      return .choice line w (← readArms fuel)
    | t => unexpected t (some (.word []))
termination_by structural n => n

/-- The arms of a choice. -/
def readArms : Nat → Reader (List (List Word × List Command))
  | 0 => fault "Word too long"
  | fuel + 1 => do
    match ← readToken true true fuel with
    | .keyword "esac" => return []
    | t =>
      let t ← match t with
        | .openParen => readToken false false fuel
        | t => pure t
      let patterns ← readPatterns t fuel
      let body ← readList true true fuel
      match ← readToken true true fuel with
      | .keyword "esac" => return [(patterns, body)]
      | .endArm => return (patterns, body) :: (← readArms fuel)
      | t => unexpected t (some .endArm)
termination_by structural n => n

/-- The patterns of an arm, of which the first token is read, and the
parenthesis behind them. What is no word counts as the last word did. -/
def readPatterns (t : Token) : Nat → Reader (List Word)
  | 0 => fault "Word too long"
  | fuel + 1 => do
    let w : Word := match t with
      | .word w => w
      | .keyword k => [.text k.toList false]
      | _ => []
    match ← readToken false false fuel with
    | .pipe => do
      let t ← readToken false false fuel
      return w :: (← readPatterns t fuel)
    | .closeParen => return [w]
    | t => unexpected t (some .closeParen)
termination_by structural n => n

/-- The redirections behind a compound command. -/
def readRedirected (line : Nat) (c : Command) : Nat → Reader Command
  | 0 => return c
  | fuel + 1 => do
    let rs ← readRedirections true fuel
    match c, rs with
    | c, [] => return c
    | .apart l body _, rs => return .apart l body rs
    | c, rs => return .redirected line c rs
termination_by structural n => n

/-- Redirections, one after another. What comes instead of the first may be a
keyword. -/
def readRedirections (keywords : Bool) : Nat → Reader (List Redirection)
  | 0 => return []
  | fuel + 1 => do
    match ← readToken false keywords fuel with
    | .redirection d sign =>
      let r ← readTarget d sign fuel
      return r :: (← readRedirections false fuel)
    | t =>
      modify fun r => { r with pushed := some t }
      return []
termination_by structural n => n

/-- What a redirection names. -/
def readTarget (d : Nat) (sign : Sign) : Nat → Reader Redirection
  | 0 => fault "Word too long"
  | fuel + 1 => do
    let mark := match sign with
      | .document _ => true
      | _ => false
    match ← readBareToken mark fuel with
    | .word w =>
      match sign with
      | .file how => return .of d (.file how w)
      | .descriptor => return .of d (.descriptor w)
      | .document tabs =>
        let quoted := w.any fun
          | .quotes | .double _ | .text _ true => true
          | _ => false
        let text := w.flatMap fun
          | .text s _ => s
          | _ => []
        let number := (← get).count
        modify fun r =>
          { r with
            count := number + 1
            pending := r.pending ++ [⟨number, text, tabs, quoted⟩] }
        return .of d (.document number quoted)
    | t => unexpected t none
termination_by structural n => n

/-- A simple command of which some parts are read, the latest last. -/
def readSimple (line : Nat) (assignments : List (Stream × Word))
    (words : List Word) (redirections : List Redirection) :
    Nat → Reader Command
  | 0 => fault "Word too long"
  | fuel + 1 => do
    let finish (t : Token) : Reader Command := do
      modify fun r => { r with pushed := some t }
      return .simple line assignments words redirections
    match ← readToken false false fuel with
    | .word w =>
      match words, assignment? w with
      | [], some a => readSimple line (assignments ++ [a]) [] redirections fuel
      | _, _ => readSimple line assignments (words ++ [w]) redirections fuel
    | .redirection d sign =>
      let r ← readTarget d sign fuel
      readSimple line assignments words (redirections ++ [r]) fuel
    | .openParen =>
      match assignments, words, redirections with
      | [], [w], [] =>
        match ← readToken false false fuel with
        | .closeParen => pure ()
        | t => unexpected t (some .closeParen)
        match w with
        | [.text s false] =>
          if !Stream.isName s || specialNames.contains (String.ofList s) then
            fault "Bad function name"
          let line := (← get).line
          return .definition line s (← readCommand true fuel)
        | _ => fault "Bad function name"
      | _, _, _ => finish .openParen
    | t => finish t
termination_by structural n => n
where
  /-- A word as an assignment. -/
  assignment? (w : Word) : Option (Stream × Word) :=
    match w with
    | .text s false :: rest =>
      match s.span (· ≠ '=') with
      | (name, '=' :: value) =>
        if Stream.isName name then some (name, textPart value false ++ rest)
        else none
      | _ => none
    | _ => none
  /-- Names that functions cannot have. -/
  specialNames : List String :=
    ["break", "continue", "eval", "exec", "exit", "export", "readonly",
      "return", "set", "shift", "times", "trap", "unset"]

end

/-- The next piece of a text: its commands, and where reading stands behind
it; none when the text is over. -/
def Reading.next? (r : Reading) :
    Except Unreadable (Option (List Command × Reading)) :=
  let fuel := 20 * r.rest.length + 100
  let piece : Reader (Option (List Command)) := do
    match ← readToken false true fuel with
    | .endOfFile =>
      modify fun r => { r with pushed := none }
      readDocuments fuel
      return none
    | t =>
      modify fun r => { r with pushed := some t }
      return some (← readList false true fuel)
  do
    let (c, r) ← StateT.run piece { r with pushed := none, pending := [] }
    return c.map (·, r)

end ApiContract.Shell
