/-
Running the stream editor: each line goes through the commands of the script
that are for it, and is shown when it has passed the last one.

A round over the script ends with the line shown or not, or goes on with what
is left of the line, or ends the editor.
-/
import ApiContract.Shell.Editor.Work

namespace ApiContract.Shell.Editor

namespace Editing

-- ================================================================ patterns

/-- A pattern, or the one that was used last. -/
def patternOr (x : Setting) (m : Option Matcher) : Editing Matcher := do
  match m.or (← get).last with
  | some m =>
    modify fun w => { w with last := some m }
    return m
  | none => stop x x.script.missing 1

/-- The line in hand is told by an address. -/
def isAt (x : Setting) (a : Address) : Editing Bool := do
  let w ← get
  match a with
  | .line n => return w.number = n
  | .step first step =>
    return first ≤ w.number && (w.number - first) % step = 0
  | .last => isLast x
  | .like m =>
    let m ← patternOr x m
    return (m.search? (Spot.atStart (← get).space.text)).isSome

-- =============================================================== selection

/-- A range stands somewhere else. -/
def setSpan (index : Nat) (s : Span) : Editing Unit :=
  modify fun w => { w with spans := w.spans.setIfInBounds index s }

/-- The number of the line that a range ends at, where it is known when the
range begins. -/
def lastNumber? (number : Nat) : RangeEnd → Option Nat
  | .address (.line n) => some n
  | .address _ => none
  | .further n => some (number + n)
  | .multiple n =>
    some (if n = 0 then number else (number + n - 1) / n * n)

/-- A range begins with the line in hand, and ends there if its last line is
not a later one. -/
def beginRange (index : Nat) (first : Address) (last : RangeEnd) :
    Editing Unit := do
  let w ← get
  let behind : Span :=
    match first with
    | .line _ => .ended
    | _ => .waiting
  match lastNumber? w.number last with
  | some n => setSpan index (if n ≤ w.number then behind else .within (some n))
  | none => setSpan index (.within none)

/-- The line in hand belongs to a range. -/
def isInRange (x : Setting) (index : Nat) (first : Address)
    (last : RangeEnd) : Editing Bool := do
  let w ← get
  let behind : Span :=
    match first with
    | .line _ => .ended
    | _ => .waiting
  match (w.spans[index]?).getD .waiting with
  | .ended => return false
  | .waiting =>
    if ← isAt x first then
      beginRange index first last
      return true
    else return false
  | .within (some n) =>
    if n ≤ w.number then setSpan index behind
    match last with
    | .address _ => return w.number ≤ n
    | _ => return true
  | .within none =>
    match last with
    | .address a =>
      if ← isAt x a then setSpan index behind
    | _ => pure ()
    return true

/-- A command is for the line in hand. -/
def isFor (x : Setting) (index : Nat) (s : Selection) : Editing Bool := do
  let chosen ← match s.first, s.last with
    | none, _ => pure true
    | some a, none => isAt x a
    | some a, some last => isInRange x index a last
  return chosen != s.inverted

-- =========================================================== substitutions

/-- A text with the case of its first letter and of the others changed. -/
def changeCase (all first : CaseChange) (s : Stream) : Stream :=
  let change (k : CaseChange) (c : Char) : Char :=
    match k with
    | .keep => c
    | .upper => c.toUpper
    | .lower => c.toLower
  match s with
  | [] => []
  | c :: cs =>
    let k := if first = .keep then all else first
    change k c :: cs.map (change all)

/-- The text that takes the place of a match. A change of one letter's case
that finds an empty group waits for the next text. -/
def replacementOf (group : Nat → Stream) :
    List Piece → CaseChange → Stream
  | [], _ => []
  | p :: ps, waiting =>
    let first := if p.first = .keep then waiting else p.first
    let text := changeCase p.all first p.text
    let first := if p.text.isEmpty then first else .keep
    let inside := (p.group.map group).getD []
    let waits := p.group.isSome && inside.isEmpty && p.first ≠ .keep
    text ++ changeCase p.all first inside
      ++ replacementOf group ps (if waits then first else .keep)

/-- The matches of a pattern from a place on, up to a number of them. An empty
one right behind another one is none. -/
def matchesOf (m : Matcher) :
    Nat → Spot → Option Nat → Option Nat → List Spans
  | 0, _, _, _ => []
  | fuel + 1, s, last, most =>
    if most = some 0 then []
    else
      match m.search? s with
      | none => []
      | some spans =>
        match spans.lookup 0 with
        | none => []
        | some (first, behind) =>
          let beyond := if first = behind then behind + 1 else behind
          let onward (most : Option Nat) : List Spans :=
            if s.position + s.rest.length < beyond then []
            else
              matchesOf m fuel (s.advance (beyond - s.position))
                (some behind) most
          if first = behind && last = some first then onward most
          else spans :: onward (most.map (· - 1))

/-- The text with its matches replaced, from a place on. -/
def replaced (text : Stream) (pieces : List Piece) :
    Nat → List Spans → Stream
  | place, [] => text.drop place
  | place, spans :: more =>
    let between (first last : Nat) : Stream :=
      (text.drop first).take (last - first)
    let group (n : Nat) : Stream :=
      (spans.lookup n).elim [] fun g => between g.1 g.2
    let (first, behind) := (spans.lookup 0).getD (place, place)
    between place first ++ replacementOf group pieces .keep
      ++ replaced text pieces behind more

/-- A substitution in the line in hand. -/
def substitute (x : Setting) (s : Substitution) : Editing Unit := do
  let m ← patternOr x s.pattern
  let w ← get
  let text := w.space.text
  let number := max 1 s.number
  let found :=
    matchesOf m (2 * text.length + 2) (Spot.atStart text) none
      (if s.all then none else some number)
  match found.drop (number - 1) with
  | [] => return ()
  | chosen =>
    let text := replaced text s.replacement 0 chosen
    let space := { w.space with text }
    set { w with space, replaced := true }
    if s.print then writeLine x x.main space
    match s.write with
    | some sheet => writeLine x (some sheet) space
    | none => return ()

-- ================================================================= showing

/-- An octet made visible. -/
def visible (c : Char) : Stream :=
  if c = '\\' then ['\\', '\\']
  else if Tool.isPrinting c then [c]
  else Tool.escaped c

/-- A line made visible, in lines of a width, each but the last with a
backslash at its end. -/
def listed (width : Nat) (s : Stream) : Stream :=
  go 0 s
where
  /-- The octets from a column on. -/
  go (column : Nat) : Stream → Stream
    | [] => ['$', '\n']
    | c :: cs =>
      let text := visible c
      if 0 < width && width - 1 < column + text.length then
        '\\' :: '\n' :: (text ++ go text.length cs)
      else text ++ go (column + text.length) cs

/-- What comes before the first end of a line in a text, and what behind. -/
def firstLine (x : Setting) (s : Stream) : Stream × Option Stream :=
  match s.span (· ≠ x.lineEnd) with
  | (a, _ :: b) => (a, some b)
  | (a, []) => (a, none)

/-- The part of the line in hand that is its own first line. -/
def firstPart (x : Setting) (l : Line) : Line :=
  match firstLine x l.text with
  | (text, some _) => ⟨text, true⟩
  | (_, none) => l

-- ================================================================ commands

/-- Where a round goes on: at a command, from the start with the line as it
is, or at its end, which may be that of the editor too. -/
inductive Onward where
  | command (index : Nat)
  | again
  | done (shown : Bool)
  | quit (shown : Bool) (status : Nat)

/-- The line in hand becomes another one. -/
def setSpace (l : Line) : Editing Unit :=
  modify fun w => { w with space := l }

/-- The line in hand is shown unless lines are only shown on command. -/
def showSpace (x : Setting) : Editing Unit := do
  if !x.quiet then writeLine x x.main (← get).space

/-- A jump to a command, or on to the next one. -/
def jumpWhen (b : Bool) (target index : Nat) : Onward :=
  .command (if b then target else index + 1)

/-- Does what a command does, and tells where the script goes on. -/
def perform (x : Setting) (index : Nat) (s : Selection) (e : Edit) :
    Editing Onward := do
  let w ← get
  let onward : Onward := .command (index + 1)
  let joined (a b : Line) : Line :=
    { a with text := a.text ++ x.lineEnd :: b.text }
  let enqueue (q : Queued) : Editing Unit :=
    modify fun w => { w with queue := q :: w.queue }
  match e with
  | .nothing => return onward
  | .block behind => return .command behind
  | .append text =>
    enqueue (.text text)
    return onward
  | .insert text =>
    writeWhole x text
    return onward
  | .change text =>
    let isOver : Bool :=
      match (w.spans[index]?).getD .waiting with
      | .within _ => false
      | _ => true
    if s.last.isNone || isOver then writeWhole x text
    return .done false
  | .delete => return .done false
  | .deleteFirst =>
    match (firstLine x w.space.text).2 with
    | none => return .done false
    | some text =>
      setSpace { w.space with text }
      return .again
  | .print =>
    writeLine x x.main w.space
    return onward
  | .printFirst =>
    writeLine x x.main (firstPart x w.space)
    return onward
  | .printNumber =>
    writeWhole x (Stream.ofNat w.number ++ ['\n'])
    return onward
  | .printName =>
    let name := (w.input.map (·.name)).getD ['-']
    writeLine x x.main ⟨name, true⟩
    return onward
  | .list width =>
    writeWhole x (listed (width.getD x.width) w.space.text)
    return onward
  | .hold =>
    set { w with hold := w.space }
    return onward
  | .holdMore =>
    set { w with hold := joined w.hold w.space }
    return onward
  | .fetch =>
    setSpace w.hold
    return onward
  | .fetchMore =>
    setSpace (joined w.space w.hold)
    return onward
  | .exchange =>
    set { w with space := w.hold, hold := w.space }
    return onward
  | .empty =>
    setSpace { w.space with text := [] }
    return onward
  | .next =>
    if ← isLast x then return .done true
    showSpace x
    match ← nextLine x with
    | some l =>
      setSpace l
      return onward
    | none => return .done false
  | .nextMore =>
    if ← isLast x then return .done true
    match ← nextLine x with
    | some l =>
      setSpace ⟨(joined w.space l).text, l.ended⟩
      return onward
    | none => return .done true
  | .quit silently status => return .quit (!silently) status
  | .readFile name =>
    enqueue (.file name)
    return onward
  | .readLine name =>
    match ← readLine x name with
    | some l => enqueue (.text l)
    | none => pure ()
    return onward
  | .write sheet =>
    writeLine x (some sheet) w.space
    return onward
  | .writeFirst sheet =>
    writeLine x (some sheet) (firstPart x w.space)
    return onward
  | .map table =>
    let text := w.space.text.map fun c => (table.lookup c).getD c
    setSpace { w.space with text }
    return onward
  | .substitute s =>
    substitute x s
    return onward
  | .jump _ target => return .command target
  | .jumpIf _ target =>
    set { w with replaced := false }
    return jumpWhen w.replaced target index
  | .jumpUnless _ target =>
    set { w with replaced := false }
    return jumpWhen (!w.replaced) target index

/-- A round from a command on. -/
def round (x : Setting) : Nat → Nat → Editing Onward
  | 0, _ => return .done true
  | fuel + 1, index => do
    match x.script.commands[index]? with
    | none => return .done true
    | some c =>
      if ← isFor x index c.selection then
        match ← perform x index c.selection c.edit with
        | .command next => round x fuel next
        | onward => return onward
      else round x fuel (index + 1)

/-- How many commands a round has at most. Only a script that does not end has
more. -/
def longestRound : Nat := 10000000

/-- Round after round, until there is no further line. -/
def rounds (x : Setting) : Nat → Bool → Editing Nat
  | 0, _ => return 0
  | fuel + 1, again => do
    let there ← do
      if again then pure true
      else
        match ← nextLine x with
        | some l =>
          setSpace l
          pure true
        | none => pure false
    if !there then return 0
    match ← round x longestRound 0 with
    | .command _ | .again => rounds x fuel true
    | .done shown =>
      if shown then showSpace x
      rounds x fuel false
    | .quit shown status =>
      if shown then
        showSpace x
        endLine x x.main
        showQueue x
      close x
      return status

end Editing

/-- Runs a script on files: the status. -/
def Setting.run (x : Setting) (operands : List Stream) : Action Nat := do
  let edit : Editing Nat := do
    Editing.openSheets x
    Editing.rounds x Editing.longestRound false
  let (result, w) ← StateT.run (ExceptT.run edit)
    { operands, spans := Editing.firstSpans x.script }
  let status : Nat :=
    match result with
    | .ok status => if w.status = 0 then status else w.status
    | .error status => status
  let shown ←
    if (← Action.descriptor? 1).isNone then
      pure (.error ("close", Action.badDescriptor))
    else
      pure ((← Action.emit 1 w.output.reverse.flatten).mapError ("flush", ·))
  match shown with
  | .ok () => return status
  | .error (what, fault) =>
    Tool.tell x.tool ("couldn't ".toList ++ String.toList what
      ++ " stdout: ".toList ++ fault.words.toList)
    return 4

end ApiContract.Shell.Editor
