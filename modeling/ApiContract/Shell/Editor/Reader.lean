/-
Reading scripts of the stream editor. A script comes in parts, from the
command line or from files; a text that a part leaves open goes on in the
next one. A fault tells the part and how much of it had been read, or the
file and its line.
-/
import ApiContract.Shell.Arithmetic
import ApiContract.Shell.Editor.Script
import ApiContract.Shell.Pattern.Reader

namespace ApiContract.Shell.Editor

/-- Why a script cannot be used, and the status that the editor ends with. -/
structure ScriptFault where
  message : Stream
  status : Nat := 1

/-- How far reading has come: how patterns are spelled and lines end, whether
no files may be used, what is left of the part and how much is gone,
the part's name, the commands so far, the blocks that are open, the labels,
and the text that is left open with the number of its command. -/
structure Reading where
  extended : Bool := false
  zeros : Bool := false
  guarded : Bool := false
  rest : Stream := []
  position : Nat := 0
  line : Nat := 1
  file : Option Stream := none
  parts : Nat := 0
  commands : Array Instruction := #[]
  blocks : List Nat := []
  labels : List (Stream × Nat) := []
  pending : Option (Nat × Stream) := none
  quiet : Bool := false

/-- Reading a script. -/
abbrev Reader := StateT Reading (Except ScriptFault)

namespace Reader

-- ============================================================= characters

/-- A message with the place where reading stands. -/
def placed (r : Reading) (message : String) : Stream :=
  let place : Stream :=
    match r.file with
    | some name =>
      "file ".toList ++ name ++ " line ".toList ++ Stream.ofNat r.line
    | none =>
      "-e expression #".toList ++ Stream.ofNat r.parts ++ ", char ".toList
        ++ Stream.ofNat r.position
  place ++ [':', ' '] ++ Stream.ofText message

/-- A fault where reading stands. -/
def fault {α : Type} (message : String) : Reader α := do
  throw { message := placed (← get) message }

/-- The next octet, which is gone then. -/
def next : Reader (Option Char) := do
  let r ← get
  match r.rest with
  | [] => return none
  | c :: rest =>
    set { r with
      rest, position := r.position + 1
      line := if c = '\n' then r.line + 1 else r.line }
    return some c

/-- The octet that was read last is there again. -/
def back (c : Option Char) : Reader Unit :=
  modify fun r =>
    match c with
    | none => r
    | some c =>
      { r with
        rest := c :: r.rest, position := r.position - 1
        line := if c = '\n' then r.line - 1 else r.line }

/-- Octets of a class, up to the first other one, which is read too. -/
def skip (f : Char → Bool) : Reader (Option Char) := do
  let cs := (← get).rest.takeWhile f
  modify fun r =>
    { r with
      rest := r.rest.drop cs.length
      position := r.position + cs.length
      line := r.line + cs.count '\n' }
  next

/-- A blank within a line. -/
def isBlank (c : Char) : Bool := c = ' ' || c = '\t'

/-- The next octet that is no blank. -/
def nextFilled : Reader (Option Char) := skip isBlank

/-- The octets of a class that come next. -/
def run (f : Char → Bool) : Reader Stream := do
  let cs := (← get).rest.takeWhile f
  back (← skip f)
  return cs

/-- A number of which the first octet is read. Without a digit it is zero. -/
def number (first : Option Char) : Reader Nat := do
  back first
  return Arithmetic.valueOf 10 (← run Char.isDigit)

/-- The command ends here. -/
def finish : Reader Unit := do
  match ← nextFilled with
  | none | some '\n' | some ';' => return ()
  | some c =>
    if c = '}' || c = '#' then back (some c)
    else fault "extra characters after command"

-- ================================================================ escapes

/-- The octet that a letter behind a backslash stands for in all texts. -/
def letter? (c : Char) : Option Char :=
  match c with
  | 'a' => some '\x07'
  | 'f' => some '\x0c'
  | 'n' => some '\n'
  | 'r' => some '\r'
  | 't' => some '\t'
  | 'v' => some '\x0b'
  | _ => none

/-- The base and the number of digits of an octet written as a number. -/
def numbered? (c : Char) : Option (Nat × Nat) :=
  match c with
  | 'd' => some (10, 3)
  | 'o' => some (8, 3)
  | 'x' => some (16, 2)
  | _ => none

/-- A text with its octets in place of the escapes for them. A backslash stays
before octets that would count as something else. What is wrong is a control
sign of an escape. -/
def plainText (keeps : Char → Bool) (s : Stream) : Except String Stream :=
  go s s.length
where
  /-- The text, with a bound on its length. -/
  go (s : Stream) : Nat → Except String Stream
    | 0 => .ok []
    | fuel + 1 =>
      match s with
      | [] => .ok []
      | '\\' :: 'c' :: rest =>
        match rest with
        | [] => .ok ['\\']
        | '\\' :: '\\' :: rest => do return '\x1c' :: (← go rest fuel)
        | '\\' :: _ =>
          .error "recursive escaping after \\c not allowed"
        | c :: rest => do
          let n := Nat.xor c.toUpper.toNat 0x40
          return (Char.ofNat n) :: (← go rest fuel)
      | '\\' :: c :: rest =>
        match letter? c, numbered? c with
        | some e, _ => do return e :: (← go rest fuel)
        | none, some (base, size) => do
          let ds := (rest.take size).takeWhile fun d =>
            (Arithmetic.digit? d).any (· < base)
          if ds.isEmpty then return '\\' :: c :: (← go rest fuel)
          else
            let e := Char.ofNat (Arithmetic.valueOf base ds % 256)
            let more ← go (rest.drop ds.length) fuel
            return if keeps e then '\\' :: e :: more else e :: more
        | none, none => do return '\\' :: c :: (← go rest fuel)
      | c :: rest => do return c :: (← go rest fuel)

/-- A text with the escapes settled. -/
def settled (keeps : Char → Bool) (s : Stream) : Reader Stream :=
  match plainText keeps s with
  | .ok s => return s
  | .error message => fault message

/-- A text without the backslashes that are left. -/
def unslashed : Stream → Stream
  | '\\' :: c :: rest => c :: unslashed rest
  | c :: rest => c :: unslashed rest
  | [] => []

-- ============================================================== delimiters

/-- A bracket behind its sign, up to its end; the sign between other signs
does not count there. What is none comes to the end of the line. -/
def bracket : Nat → Bool → Reader Stream
  | 0, _ => return []
  | fuel + 1, first => do
    match ← next with
    | none => return []
    | some '\n' =>
      back (some '\n')
      return []
    | some ']' =>
      if first then return ']' :: (← bracket fuel false) else return [']']
    | some '[' =>
      match (← get).rest with
      | sign :: _ =>
        if [':', '.', '='].contains sign then
          let _ ← next
          let inside ← named sign fuel
          return '[' :: sign :: (inside ++ (← bracket fuel false))
        else return '[' :: (← bracket fuel false)
      | [] => return ['[']
    | some '\\' =>
      if (← get).rest.head? = some 'n' then
        let _ ← next
        return '\n' :: (← bracket fuel false)
      else return '\\' :: (← bracket fuel false)
    | some c => return c :: (← bracket fuel (first && c = '^'))
where
  /-- A name between signs in a bracket, with the signs at its end. -/
  named (sign : Char) : Nat → Reader Stream
    | 0 => return []
    | fuel + 1 => do
      match ← next with
      | none => return []
      | some '\n' =>
        back (some '\n')
        return []
      | some c =>
        if c = sign && (← get).rest.head? = some ']' then
          let _ ← next
          return [c, ']']
        else return c :: (← named sign fuel)

/-- A text up to a delimiter, which is gone then; none when there is no
delimiter. A backslash before the delimiter is left out, and in a pattern a
bracket may hold the delimiter. -/
def delimited (delimiter : Char) (isPattern : Bool) :
    Nat → Reader (Option Stream)
  | 0 => return none
  | fuel + 1 => do
    let onward (s : Stream) : Reader (Option Stream) := do
      return (← delimited delimiter isPattern fuel).map (s ++ ·)
    match ← next with
    | none => return none
    | some '\n' =>
      if isPattern then
        back (some '\n')
        return none
      else if delimiter = '\n' then return some []
      else
        back (some '\n')
        return none
    | some c =>
      if c = delimiter then return some []
      else if c = '\\' then
        match ← next with
        | none => return none
        | some d =>
          if d = delimiter && (isPattern || d ≠ '&') then onward [d]
          else if d = 'n' && isPattern then onward ['\n']
          else if d = '\n' then
            onward (if isPattern then ['\n'] else ['\\', '\n'])
          else onward ['\\', d]
      else if c = '[' && isPattern then
        let inside ← bracket (← get).rest.length.succ true
        onward ('[' :: inside)
      else onward [c]

/-- A text up to a delimiter, or a fault. -/
def delimitedOr (delimiter : Char) (isPattern : Bool) (message : String) :
    Reader Stream := do
  match ← delimited delimiter isPattern ((← get).rest.length + 1) with
  | some s => return s
  | none => fault message

-- ================================================================ patterns

/-- A bracket that holds nothing but a name between colons. -/
def isLoneClass (s : Stream) : Bool :=
  go s s.length
where
  /-- One is there, with a bound on the length. -/
  go (s : Stream) : Nat → Bool
    | 0 => false
    | fuel + 1 =>
      match s with
      | [] => false
      | '\\' :: _ :: rest => go rest fuel
      | '[' :: rest =>
        let rest := match rest with
          | '^' :: rest => rest
          | rest => rest
        let inside := rest.takeWhile (· ≠ ']')
        let lone := match inside with
          | ':' :: name =>
            name.getLast? = some ':'
              && 1 < name.length
              && name.dropLast.all fun c => c.isAlphanum || c = ' '
          | _ => false
        if lone then true
        else
          match readPast rest with
          | some rest => go rest fuel
          | none => false
      | _ :: rest => go rest fuel
  /-- What follows a bracket. -/
  readPast (cs : Stream) : Option Stream :=
    match Pattern.readMembers {} (cs.length + 2) true cs with
    | .ok (_, rest) => some rest
    | .error _ => none

/-- The pattern of a text; none for an empty one, which has no options. -/
def pattern (s : Stream) (anyCase lineWise : Bool) :
    Reader (Option Matcher) := do
  let s ← settled (fun _ => false) s
  if s.isEmpty then
    if anyCase || lineWise then
      fault "cannot specify modifiers on empty regexp"
    return none
  let r ← get
  let x : Spelling :=
    { extended := r.extended, anyCase, lineWise, zeros := r.zeros }
  match Pattern.read x s with
  | .error message => fault message
  | .ok m =>
    if isLoneClass s then
      throw {
        message :=
          "character class syntax is [[:space:]], not [:space:]".toList
        status := 4 }
    return some m

-- =============================================================== addresses

/-- The options behind the pattern of an address. -/
def addressOptions (anyCase lineWise : Bool) :
    Nat → Reader (Bool × Bool)
  | 0 => return (anyCase, lineWise)
  | fuel + 1 => do
    match ← nextFilled with
    | some 'I' => addressOptions true lineWise fuel
    | some 'M' => addressOptions anyCase true fuel
    | c =>
      back c
      return (anyCase, lineWise)

/-- An address of which the first octet is read, if there is one. The first
address of a command is no number of lines. -/
def address? (first : Bool) (c : Option Char) : Reader (Option RangeEnd) := do
  match c with
  | some '/' | some '\\' =>
    let delimiter ← do
      if c = some '/' then pure c else next
    let s ← match delimiter with
      | some d => delimitedOr d true "unterminated address regex"
      | none => fault "unterminated address regex"
    let (anyCase, lineWise) ←
      addressOptions false false ((← get).rest.length + 1)
    return some (.address (.like (← pattern s anyCase lineWise)))
  | some '$' => return some (.address .last)
  | some '+' | some '~' =>
    let n ← number (← nextFilled)
    if first then
      fault "invalid usage of +N or ~N as first address"
    return some (if c = some '+' then .further n else .multiple n)
  | some d =>
    if d.isDigit then
      let n ← number (some d)
      match ← nextFilled with
      | some '~' =>
        let step ← number (← nextFilled)
        return some (.address (if step = 0 then .line n else .step n step))
      | c =>
        back c
        return some (.address (.line n))
    else return none
  | none => return none

/-- The lines of a command of which the first octet is read, and the octet
behind them. -/
def selection (c : Option Char) : Reader (Selection × Option Char) := do
  let (s, c) ← do
    match ← address? true c with
    | some (.address first) =>
      let c ← nextFilled
      let (last, c) ← do
        if c = some ',' then
          match ← address? false (← nextFilled) with
          | none => fault "unexpected `,'"
          | some last => pure (some last, ← nextFilled)
        else pure (none, c)
      match first, last with
      | .line 0, some (.address (.like _)) => pure ()
      | .line 0, _ => fault "invalid usage of line address 0"
      | _, _ => pure ()
      pure (({ first := some first, last } : Selection), c)
    | _ => pure ({}, c)
  if c = some '!' then
    let c ← nextFilled
    if c = some '!' then fault "multiple `!'s"
    return ({ s with inverted := true }, c)
  else return (s, c)

-- =================================================================== texts

/-- The octets of a label. -/
def isLabelOctet (c : Char) : Bool :=
  !Stream.isSpace c && c ≠ ';' && c ≠ '}'

/-- The label behind a command. -/
def label : Reader Stream := do
  back (← nextFilled)
  let l ← run isLabelOctet
  match ← next with
  | some '}' => back (some '}')
  | _ => pure ()
  return l

/-- The name of a file, up to the end of the line. -/
def fileName : Reader Stream := do
  if (← get).guarded then
    fault "e/r/w commands disabled in sandbox mode"
  back (← nextFilled)
  let name ← run (· ≠ '\n')
  let _ ← next
  if name.isEmpty then fault "missing filename in r/R/w/W commands"
  return name

/-- The file that a name stands for. -/
def sheet (name : Stream) : Sheet :=
  match String.ofList name with
  | "/dev/stdout" => .output
  | "/dev/stderr" => .errors
  | _ => .path name

/-- A text with its escapes settled for good. -/
def finished (s : Stream) : Reader Stream := do
  return unslashed (← settled (· = '\\') s)

/-- The text of a command, up to the end of its line; where a backslash stands
before that, the next line belongs to it. Also says whether it is over. -/
def textLines (s : Stream) : Nat → Reader (Stream × Bool)
  | 0 => return (s, true)
  | fuel + 1 => do
    match ← next with
    | none | some '\n' => return (s ++ ['\n'], true)
    | some '\\' =>
      match ← next with
      | none => return (s ++ ['\n'], false)
      | some c => textLines (s ++ ['\\', c]) fuel
    | some c =>
      let more ← run fun c => c ≠ '\n' && c ≠ '\\'
      textLines (s ++ c :: more) fuel

/-- A command with a text. -/
def withText (kind : Char) (text : Stream) : Edit :=
  if kind = 'a' then .append text
  else if kind = 'i' then .insert text
  else .change text

/-- The text of a command is given to it, now or when it is over. -/
def giveText (index : Nat) (s : Stream) : Reader Unit := do
  let (text, ended) ← textLines s ((← get).rest.length + 1)
  if ended then
    let text ← finished text
    modify fun r =>
      { r with
        pending := none
        commands := r.commands.modify index fun c =>
          { c with edit :=
            match c.edit with
            | .insert _ => .insert text
            | .change _ => .change text
            | _ => .append text } }
  else modify fun r => { r with pending := some (index, text) }

/-- The text behind a command for one: on its line, or behind a backslash on
the next one. -/
def readText (index : Nat) : Reader Unit := do
  match ← nextFilled with
  | none => fault "expected \\ after `a', `c' or `i'"
  | some '\\' =>
    let blanks := (← get).rest.takeWhile isBlank
    match (← get).rest.drop blanks.length with
    | '\n' :: _ =>
      let _ ← nextFilled
      giveText index []
    | _ =>
      if (← get).rest.isEmpty then
        modify fun r => { r with pending := some (index, []) }
      else giveText index []
  | c =>
    back c
    giveText index []

-- ============================================================ substitutions

/-- A replacement taken apart. -/
structure PieceReading where
  done : List Piece := []
  text : Stream := []
  all : CaseChange := .keep
  first : CaseChange := .keep

/-- The text so far with a group behind it is a piece. -/
def PieceReading.close (p : PieceReading) (group : Option Nat) :
    PieceReading :=
  { p with
    done := ⟨p.text, group, p.all, p.first⟩ :: p.done
    text := []
    first := .keep }

/-- The pieces of a replacement. -/
def pieces : Stream → PieceReading → List Piece
  | [], p =>
    let p := if p.text.isEmpty then p else p.close none
    p.done.reverse
  | '&' :: rest, p => pieces rest (p.close (some 0))
  | '\\' :: c :: rest, p =>
    if c.isDigit then
      pieces rest (p.close (some (c.toNat - 0x30)))
    else
      let change (all first : CaseChange) : List Piece :=
        let p := if p.text.isEmpty then p else p.close none
        pieces rest { p with all, first }
      match c with
      | 'L' => change .lower .keep
      | 'U' => change .upper .keep
      | 'E' => change .keep .keep
      | 'l' => change p.all .lower
      | 'u' => change p.all .upper
      | c => pieces rest { p with text := p.text ++ [c] }
  | c :: rest, p => pieces rest { p with text := p.text ++ [c] }

/-- The options of a substitution. -/
structure SubstitutionOptions where
  all : Bool := false
  print : Bool := false
  number : Nat := 0
  anyCase : Bool := false
  lineWise : Bool := false
  write : Option Sheet := none

/-- The options behind a substitution. -/
def substitutionOptions (o : SubstitutionOptions) :
    Nat → Reader SubstitutionOptions
  | 0 => return o
  | fuel + 1 => do
    let unknown : Reader SubstitutionOptions :=
      fault "unknown option to `s'"
    match ← next with
    | none | some '\n' | some ';' => return o
    | some 'i' | some 'I' =>
      substitutionOptions { o with anyCase := true } fuel
    | some 'm' | some 'M' =>
      substitutionOptions { o with lineWise := true } fuel
    | some 'p' =>
      if o.print then fault "multiple `p' options to `s' command"
      substitutionOptions { o with print := true } fuel
    | some 'g' =>
      if o.all then fault "multiple `g' options to `s' command"
      substitutionOptions { o with all := true } fuel
    | some 'w' => return { o with write := some (sheet (← fileName)) }
    | some '\r' => if (← next) = some '\n' then return o else unknown
    | some c =>
      if c = '}' || c = '#' then
        back (some c)
        return o
      else if c.isDigit then
        if o.number ≠ 0 then
          fault "multiple number options to `s' command"
        let n ← number (some c)
        if n = 0 then fault "number option to `s' command may not be zero"
        substitutionOptions { o with number := n } fuel
      else unknown

/-- A substitution behind its letter. -/
def substitution : Reader Edit := do
  let open' := "unterminated `s' command"
  let delimiter ← match ← next with
    | some d => pure d
    | none => fault open'
  let s ← delimitedOr delimiter true open'
  let new ← delimitedOr delimiter false open'
  let new ← settled (fun c => c = '&' || c = '\\') new
  let o ← substitutionOptions {} ((← get).rest.length + 1)
  let m ← pattern s o.anyCase o.lineWise
  let replacement := pieces new {}
  let greatest := replacement.foldl (fun n p => max n (p.group.getD 0)) 0
  if m.any (·.groups < greatest) then
    fault ("invalid reference \\" ++ toString greatest
      ++ " on `s' command's RHS")
  return .substitute
    ⟨m, replacement, o.number, o.all, o.print, o.write⟩

/-- A table of octets behind its letter. -/
def table : Reader Edit := do
  let open' := "unterminated `y' command"
  let delimiter ← match ← next with
    | some d => pure d
    | none => fault open'
  let first ← finished (← delimitedOr delimiter false open')
  let second ← finished (← delimitedOr delimiter false open')
  if first.length ≠ second.length then
    fault "strings for `y' command are different lengths"
  finish
  return .map (first.zip second).reverse

-- ================================================================ commands

/-- A command is added. -/
def add (s : Selection) (e : Edit) : Reader Unit :=
  modify fun r => { r with commands := r.commands.push ⟨s, e⟩ }

/-- The label behind a jump, with a jump that goes nowhere yet. -/
def jumpTo (f : Stream → Nat → Edit) : Reader Edit := do
  return f (← label) 0

/-- A status behind a command that ends the editor. -/
def quitting (silently : Bool) : Reader Edit := do
  let n ← number (← nextFilled)
  finish
  return .quit silently n

/-- A command without anything behind it. -/
def lone (e : Edit) : Reader Edit := do
  finish
  return e

/-- The commands that are for one line only. -/
def takesOneAddress (c : Char) : Bool := c = 'q' || c = 'Q'

/-- A command behind its letter. -/
def command (s : Selection) (c : Char) : Reader Unit := do
  if takesOneAddress c && s.last.isSome then
    fault "command only uses one address"
  let simple (e : Reader Edit) : Reader Unit := do add s (← e)
  let index := (← get).commands.size
  match c with
  | '{' =>
    add { s with inverted := !s.inverted } (.block 0)
    modify fun r => { r with blocks := index :: r.blocks }
  | '}' =>
    match (← get).blocks with
    | [] => fault ("unexpected `" ++ Text.closeBrace ++ "'")
    | block :: blocks =>
      if s.first.isSome then
        fault ("`" ++ Text.closeBrace ++ "' doesn't want any addresses")
      finish
      add s .nothing
      modify fun r =>
        { r with
          blocks
          commands := r.commands.modify block fun c =>
            { c with edit := .block (index + 1) } }
  | ':' =>
    if s.first.isSome then fault ": doesn't want any addresses"
    let l ← label
    if l.isEmpty then fault "\":\" lacks a label"
    add s .nothing
    modify fun r => { r with labels := r.labels ++ [(l, index)] }
  | 'a' | 'i' | 'c' =>
    add s (withText c [])
    readText index
  | '=' => simple (lone .printNumber)
  | 'd' => simple (lone .delete)
  | 'D' => simple (lone .deleteFirst)
  | 'F' => simple (lone .printName)
  | 'g' => simple (lone .fetch)
  | 'G' => simple (lone .fetchMore)
  | 'h' => simple (lone .hold)
  | 'H' => simple (lone .holdMore)
  | 'n' => simple (lone .next)
  | 'N' => simple (lone .nextMore)
  | 'p' => simple (lone .print)
  | 'P' => simple (lone .printFirst)
  | 'x' => simple (lone .exchange)
  | 'z' => simple (lone .empty)
  | 'l' => simple do
    let first ← nextFilled
    let width ← do
      if first.any Char.isDigit then pure (some (← number first))
      else
        back first
        pure none
    lone (.list width)
  | 'q' => simple (quitting false)
  | 'Q' => simple (quitting true)
  | 'r' => simple do return .readFile (← fileName)
  | 'R' => simple do return .readLine (← fileName)
  | 'w' => simple do return .write (sheet (← fileName))
  | 'W' => simple do return .writeFirst (sheet (← fileName))
  | 's' => simple substitution
  | 'y' => simple table
  | 'b' => simple (jumpTo .jump)
  | 't' => simple (jumpTo .jumpIf)
  | 'T' => simple (jumpTo .jumpUnless)
  | 'v' =>
    let version ← label
    if (version.takeWhile Char.isDigit).length ≠ 0
        && 4 < Arithmetic.valueOf 10 (version.takeWhile Char.isDigit) then
      fault "expected newer version of sed"
  | '\n' | ';' => fault "missing command"
  | c => fault ("unknown command: `" ++ Stream.text [c] ++ "'")

/-- A remark, up to the end of its line. A first line of `#n` says that lines
are only shown when a command does so. -/
def remark : Reader Unit := do
  let s ← run (· ≠ '\n')
  let _ ← next
  let r ← get
  let atStart := r.commands.isEmpty && r.parts ≤ 1 && r.line ≤ 2
    && r.position ≤ s.length + 2
  if s = ['n'] && atStart then set { r with quiet := true }

/-- Commands up to the end of the part. -/
def commands : Nat → Reader Unit
  | 0 => return ()
  | fuel + 1 => do
    match ← skip fun c => c = ';' || Stream.isSpace c with
    | none => return ()
    | c =>
      let (s, c) ← selection c
      match c with
      | some '#' =>
        if s.first.isSome then
          fault "comments don't accept any addresses"
        remark
      | some c => command s c
      | none => fault "missing command"
      commands fuel

/-- One part of a script, on the command line or in a file. -/
def part (file : Option Stream) (text : Stream) : Reader Unit := do
  modify fun r =>
    { r with
      rest := text, position := 0, line := 1, file
      parts := r.parts + (if file.isSome then 0 else 1) }
  match (← get).pending with
  | some (index, s) => giveText index s
  | none => pure ()
  commands (text.length + 1)

/-- The script when all parts are read: a text that is open is over, and jumps
lead to their labels. -/
def whole : Reader Script := do
  modify fun r => { r with position := 0 }
  match (← get).pending with
  | some (index, s) =>
    modify fun r => { r with rest := [] }
    let text ← finished s
    modify fun r =>
      { r with commands := r.commands.modify index fun c =>
        { c with edit :=
          match c.edit with
          | .insert _ => .insert text
          | .change _ => .change text
          | _ => .append text } }
  | none => pure ()
  let r ← get
  if !r.blocks.isEmpty then fault ("unmatched `" ++ Text.openBrace ++ "'")
  let mut done : Array Instruction := #[]
  for c in r.commands do
    match c.edit.label? with
    | none => done := done.push c
    | some [] =>
      done := done.push { c with edit := c.edit.leading r.commands.size }
    | some l =>
      match r.labels.lookup l with
      | some target =>
        done := done.push { c with edit := c.edit.leading target }
      | none =>
        throw { message := "can't find label for jump to `".toList ++ l
          ++ ['\''] }
  return ⟨done, r.quiet, placed r "no previous regular expression"⟩

end Reader

end ApiContract.Shell.Editor
