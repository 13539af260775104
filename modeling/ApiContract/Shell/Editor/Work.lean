/-
What the stream editor holds while it runs: the line in hand, the one on hold,
the files it reads one after another, and those it writes to.

A line keeps whether its end was there. A text that is shown without its end
gets it when more is shown behind it on the same sheet, so only the last text
of a sheet can lack it.
-/
import ApiContract.Shell.Editor.Script
import ApiContract.Shell.Tool.Basic

namespace ApiContract.Shell.Editor

/-- A text in hand, and whether the end of its line was there. -/
structure Line where
  text : Stream := []
  ended : Bool := true

/-- Where a range of lines stands: its first line is waited for, it goes on
(perhaps up to a number), or it is over for good. -/
inductive Span where
  | waiting
  | within (last : Option Nat)
  | ended
  deriving DecidableEq

/-- What is shown when the next line is read: a text, or all of a file. -/
inductive Queued where
  | text (s : Stream)
  | file (name : Stream)

/-- A file under way: what it stands for among the things opened, its name,
what is left of it, and how much has been taken and is gone. -/
structure Input where
  id : Nat
  name : Stream
  rest : Stream
  taken : Nat := 0
  gone : Nat := 0

/-- How the editor is called. `page` tells that files are edited in place, and
what the earlier ones are kept as. -/
structure Setting where
  tool : Stream
  script : Script
  quiet : Bool := false
  apart : Bool := false
  page : Option Stream := none
  zeros : Bool := false
  exact : Bool := false
  width : Nat := 70

/-- The octet that ends a line. -/
def Setting.lineEnd (x : Setting) : Char := if x.zeros then '\x00' else '\n'

/-- Files count one by one. -/
def Setting.isApart (x : Setting) : Bool := x.apart || x.page.isSome

/-- The sheet that lines are shown on; none for the page of a file. -/
def Setting.main (x : Setting) : Option Sheet :=
  if x.page.isSome then none else some .output

/-- What the editor holds. `output` and `page` have the latest text first, and
`missing` tells the sheets whose last text lacks its end. -/
structure Work where
  operands : List Stream
  input : Option Input := none
  isFresh : Bool := true
  number : Nat := 0
  space : Line := {}
  hold : Line := {}
  replaced : Bool := false
  queue : List Queued := []
  spans : Array Span
  last : Option Matcher := none
  sheets : List (Stream × Nat) := []
  read : List (Stream × Stream) := []
  output : List Stream := []
  page : List Stream := []
  missing : List (Option Sheet) := []
  status : Nat := 0

/-- What the editor does. It may have to end at once with a status. -/
abbrev Editing := ExceptT Nat (StateT Work Action)

namespace Editing

/-- Something the shell does. -/
def act {α : Type} (x : Action α) : Editing α :=
  fun w => do return (.ok (← x), w)

/-- A message. -/
def tell (x : Setting) (message : Stream) : Editing Unit :=
  act (Tool.tell x.tool message)

/-- A message behind which the editor cannot go on. -/
def stop {α : Type} (x : Setting) (message : Stream) (status : Nat := 4) :
    Editing α := do
  tell x message
  throw status

-- ================================================================= sheets

/-- Writes on a sheet. -/
def write (sheet : Option Sheet) (text : Stream) : Editing Unit := do
  match sheet with
  | none => modify fun w => { w with page := text :: w.page }
  | some .output => modify fun w => { w with output := text :: w.output }
  | some .errors => act (Action.say text)
  | some (.path name) =>
    match (← get).sheets.lookup name with
    | some id =>
      let _ ← act (Action.write id text)
    | none => return ()

/-- The last text on a sheet gets its end. -/
def endLine (x : Setting) (sheet : Option Sheet) : Editing Unit := do
  if (← get).missing.contains sheet then
    write sheet [x.lineEnd]
    modify fun w => { w with missing := w.missing.erase sheet }

/-- Writes a text that ends its line itself. -/
def writeWhole (x : Setting) (text : Stream) : Editing Unit := do
  endLine x x.main
  write x.main text

/-- Writes a line. -/
def writeLine (x : Setting) (sheet : Option Sheet) (l : Line) :
    Editing Unit := do
  endLine x sheet
  write sheet l.text
  if l.ended then write sheet [x.lineEnd]
  else modify fun w => { w with missing := sheet :: w.missing }

/-- The sheets that a command writes on. -/
def sheetsOf : Edit → List Sheet
  | .write s | .writeFirst s => [s]
  | .substitute s => s.write.toList
  | _ => []

/-- Opens the sheets of a script. -/
def openSheets (x : Setting) : Editing Unit := do
  for c in x.script.commands do
    for sheet in sheetsOf c.edit do
      match sheet with
      | .path name =>
        if ((← get).sheets.lookup name).isNone then
          match ← act (Action.openPath name .clobber) with
          | .ok id =>
            modify fun w => { w with sheets := (name, id) :: w.sheets }
          | .error fault =>
            stop x ("couldn't open file ".toList ++ name ++ [':', ' ']
              ++ fault.words.toList)
      | _ => pure ()

/-- What is queued is shown. -/
def showQueue (x : Setting) : Editing Unit := do
  let queue := (← get).queue.reverse
  modify fun w => { w with queue := [] }
  for q in queue do
    endLine x x.main
    match q with
    | .text s => write x.main s
    | .file name =>
      match ← act (Action.openPath name .read) with
      | .error _ => pure ()
      | .ok id =>
        match ← act (Action.drain id) with
        | .ok s => write x.main s
        | .error fault =>
          stop x ("read error on ".toList ++ name ++ [':', ' ']
            ++ fault.words.toList)

-- ================================================================= inputs

/-- How much of a stream is read at once. -/
def blockSize : Nat := 4096

/-- So much of the file under way is gone, as it is read block by block. -/
def passTo (x : Setting) (i : Input) (final : Bool) : Editing Input := do
  let total := i.taken + i.rest.length
  let needed ← do
    if x.exact then pure i.taken
    else if ← act (Action.isSeekable i.id) then
      pure (if final then i.taken else i.gone)
    else pure ((i.taken + blockSize - 1) / blockSize * blockSize)
  let needed := min needed total
  act (Action.pass i.id (needed - i.gone))
  return { i with gone := max needed i.gone }

/-- The name that a file edited in place is kept under. -/
def keptName (suffix name : Stream) : Stream :=
  let last := (name.reverse.takeWhile (· ≠ '/')).reverse
  let form := if suffix.contains '*' then suffix else '*' :: suffix
  let kept := form.flatMap fun c => if c = '*' then last else [c]
  if kept.contains '/' then kept
  else name.take (name.length - last.length) ++ kept

/-- The page of a file that was edited in place takes its place. -/
def storePage (x : Setting) (suffix name : Stream) : Editing Unit := do
  let page := (← get).page.reverse.flatten
  modify fun w => { w with page := [], missing := w.missing.erase none }
  let path ← act (Action.resolve name)
  if !suffix.isEmpty then
    let old ← act (Action.access (.read path .done))
    let kept ← act (Action.resolve (keptName suffix name))
    match ← act (Action.access
        (.create kept (old.toOption.getD []) .done)) with
    | .ok () => pure ()
    | .error fault =>
      stop x ("cannot rename ".toList ++ name ++ [':', ' ']
        ++ fault.words.toList)
  let _ ← act (Action.access (.create path (Stream.toBytes page) .done))

/-- The file under way is left. -/
def close (x : Setting) : Editing Unit := do
  match (← get).input with
  | none => return ()
  | some i =>
    let _ ← passTo x i true
    modify fun w => { w with input := none, isFresh := true }
    match x.page with
    | some suffix => storePage x suffix i.name
    | none => return ()

/-- What an operand stands for, and what is left of it; nothing when it cannot
be opened, which is told. -/
def openInput (x : Setting) (operand : Stream) :
    Editing (Option Input) := do
  let name := if operand = ['-'] then "stdin".toList else operand
  let refused {α : Type} (fault : FileFault) : Editing α :=
    stop x ("read error on ".toList ++ name ++ [':', ' ']
      ++ fault.words.toList)
  let unreadable (fault : FileFault) : Editing (Option Input) := do
    tell x ("can't read ".toList ++ operand ++ [':', ' ']
      ++ fault.words.toList)
    modify fun w => { w with status := 2 }
    return none
  let opened ← act do
    if x.page.isSome then Action.openPath operand .read
    else Tool.openOperand operand
  match opened with
  | .error fault =>
    if operand = ['-'] && x.page.isNone then refused fault
    else unreadable fault
  | .ok id =>
    if x.page.isSome && !(← act (Action.isSeekable id)) then
      stop x ("couldn't edit ".toList ++ operand
        ++ ": not a regular file".toList)
    match ← act (Action.lookAhead id) with
    | .ok rest => return some { id, name := operand, rest }
    | .error fault => refused fault

/-- Everything counts anew with the next file. -/
def renew (x : Setting) (spans : Array Span) : Editing Unit := do
  let w ← get
  if x.isApart && w.isFresh then
    set { w with number := 0, hold := {}, spans, read := [] }
  modify fun w => { w with isFresh := false }

/-- Where the ranges of a script stand at first. -/
def firstSpans (s : Script) : Array Span :=
  s.commands.map fun c =>
    match c.selection.first with
    | some (.line 0) => .within none
    | _ => .waiting

/-- The next line of the file under way or of one behind it. -/
def takeLine (x : Setting) : Nat → Editing (Option Line)
  | 0 => return none
  | fuel + 1 => do
    match (← get).input with
    | some i =>
      match i.rest with
      | [] =>
        close x
        takeLine x fuel
      | c :: rest =>
        let text := (c :: rest).takeWhile (· ≠ x.lineEnd)
        let behind := i.rest.drop text.length
        let ended := !behind.isEmpty
        let taken := i.taken + text.length + (if ended then 1 else 0)
        let i ← passTo x { i with rest := behind.drop 1, taken } false
        modify fun w => { w with input := some i, number := w.number + 1 }
        return some ⟨text, ended⟩
    | none =>
      match (← get).operands with
      | [] => return none
      | operand :: operands =>
        modify fun w => { w with operands }
        renew x (firstSpans x.script)
        match ← openInput x operand with
        | none => takeLine x fuel
        | some input =>
          modify fun w => { w with input := some input }
          takeLine x fuel

/-- The next line, before which what is queued is shown. -/
def nextLine (x : Setting) : Editing (Option Line) := do
  showQueue x
  modify fun w => { w with replaced := false }
  takeLine x (2 * (← get).operands.length + 3)

/-- The operands behind the file under way have nothing more. Those that
cannot be opened are left out. -/
def areEmpty (x : Setting) : List Stream → Editing Bool
  | [] => return true
  | operand :: operands => do
    match ← openInput x operand with
    | none =>
      modify fun w => { w with operands }
      areEmpty x operands
    | some i =>
      if i.rest.isEmpty then
        modify fun w => { w with operands }
        areEmpty x operands
      else return false

/-- The line in hand is the last one. -/
def isLast (x : Setting) : Editing Bool := do
  let w ← get
  if w.input.any fun i => !i.rest.isEmpty then return false
  else if x.isApart then return true
  else areEmpty x w.operands

/-- The next line of a file that is read line by line, as it is. -/
def readLine (x : Setting) (name : Stream) : Editing (Option Stream) := do
  let cut (s : Stream) : Stream :=
    let text := s.takeWhile (· ≠ x.lineEnd)
    s.take (text.length + 1)
  let shared ← do
    if name ≠ "/dev/stdin".toList then pure none
    else
      match (← get).input with
      | some i => pure (if i.name = ['-'] then some i else none)
      | none => pure none
  match shared with
  | some i =>
    let l := cut i.rest
    let i := { i with
      rest := i.rest.drop l.length, taken := i.taken + l.length }
    modify fun w => { w with input := some i }
    return if l.isEmpty then none else some l
  | none =>
    let rest ← do
      match (← get).read.lookup name with
      | some rest => pure rest
      | none =>
        match ← act (Action.openPath name .read) with
        | .error _ => pure []
        | .ok id => pure ((← act (Action.drain id)).toOption.getD [])
    let l := cut rest
    modify fun w =>
      { w with read := (name, rest.drop l.length)
          :: w.read.filter (·.1 ≠ name) }
    return if l.isEmpty then none else some l

end Editing

end ApiContract.Shell.Editor
