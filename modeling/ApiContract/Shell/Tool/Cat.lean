/-
`cat`: operands one after another, as they are or with their lines numbered,
runs of empty lines cut to one, and octets that do not print made visible. A
line goes on from one operand to the next.
-/
import ApiContract.Shell.Tool.Basic

namespace ApiContract.Shell.Tool

/-- Which lines are numbered. -/
inductive Numbering where
  | none
  | all
  | filled
  deriving DecidableEq

/-- How octets are shown. -/
structure Showing where
  numbering : Numbering := .none
  ends : Bool := false
  squeezed : Bool := false
  tabs : Bool := false
  visible : Bool := false

namespace Showing

/-- The options of `cat`. -/
def forms : List OptionForm :=
  [.both 'A' "show-all", .both 'b' "number-nonblank", .short 'e',
    .both 'E' "show-ends", .both 'n' "number", .both 's' "squeeze-blank",
    .short 't', .both 'T' "show-tabs", .short 'u',
    .both 'v' "show-nonprinting"]

/-- What the options ask for. -/
def ofArguments (a : Arguments) : Showing where
  numbering :=
    if a.has 'b' then .filled else if a.has 'n' then .all else .none
  ends := a.has 'A' || a.has 'e' || a.has 'E'
  squeezed := a.has 's'
  tabs := a.has 'A' || a.has 't' || a.has 'T'
  visible := a.has 'A' || a.has 'e' || a.has 't' || a.has 'v'

end Showing

/-- An octet below 128 made visible. -/
def visibleLow (c : Char) : Stream :=
  if c < ' ' then ['^', Char.ofNat (c.toNat + 0x40)]
  else if c = '\x7f' then ['^', '?']
  else [c]

/-- An octet other than a tab and a line feed made visible. -/
def visibleOctet (c : Char) : Stream :=
  if c.toNat < 0x80 then visibleLow c
  else 'M' :: '-' :: visibleLow (Char.ofNat (c.toNat - 0x80))

/-- How far showing has come: the number of the last line, the line feeds
right before (one at the start), whether a carriage return is held back, and
what is shown, the latest first. -/
structure Shown where
  number : Nat := 0
  feeds : Nat := 1
  held : Bool := false
  output : List Stream := []

namespace Shown

/-- More is shown. -/
def put (s : Shown) (text : Stream) : Shown :=
  { s with output := text :: s.output }

/-- The number of the next line is shown. -/
def numbered (s : Shown) : Shown :=
  let n := s.number + 1
  let ds := Stream.ofNat n
  let text := List.replicate (6 - ds.length) ' ' ++ ds ++ ['\t']
  { s.put text with number := n }

/-- A carriage return that was held back is shown. -/
def release (s : Shown) : Shown :=
  if s.held then { s.put ['\r'] with held := false } else s

/-- One octet. -/
def take (w : Showing) (s : Shown) (c : Char) : Shown :=
  if c = '\n' then
    let feeds := s.feeds + 1
    if w.squeezed && 3 ≤ feeds then { s with feeds := 3 }
    else
      let s := if w.numbering = .all && 2 ≤ feeds then s.numbered else s
      let sign : Stream :=
        if !w.ends then [] else if s.held then ['^', 'M', '$'] else ['$']
      { s.put (sign ++ ['\n']) with feeds, held := false }
  else
    let s := s.release
    let s := if w.numbering ≠ .none && 1 ≤ s.feeds then s.numbered else s
    let s := { s with feeds := 0 }
    if c = '\t' then s.put (if w.tabs then ['^', 'I'] else ['\t'])
    else if w.visible then s.put (visibleOctet c)
    else if c = '\r' && w.ends then { s with held := true }
    else s.put [c]

end Shown

/-- Reading from one thing opened while writing to it would not end. -/
def feedsItself (id : Nat) : Action Bool := do
  match ← Action.descriptor? 1 with
  | none => return false
  | some out =>
    match ← Action.openedAt id, ← Action.openedAt out with
    | .file source start _, .file target place how =>
      if source ≠ target then return false
      let content ← Action.access (.read target .done)
      let size := ((content.toOption).getD []).length
      return decide (start < (if how = .append then size else place))
    | _, _ => return false

/-- What is wrong with the output of `cat`. -/
def outputFault (tool : Stream) (fault : FileFault) : Action Nat := do
  tell tool ("standard output: ".toList ++ fault.words.toList)
  return 1

/-- The operands of `cat`, one after another, with the status so far. -/
def showAll (tool : Stream) (w : Showing) (plain : Bool) :
    List Stream → Shown → Nat → Action Nat
  | [], s, status => do
    match ← Action.emit 1 s.release.output.reverse.flatten with
    | .ok () => return status
    | .error fault => outputFault tool fault
  | operand :: rest, s, status => do
    let refused (fault : FileFault) : Action Nat := do
      tell tool (named operand ++ ':' :: ' ' :: fault.words.toList)
      showAll tool w plain rest s 1
    match ← openOperand operand with
    | .error fault => refused fault
    | .ok id =>
      if ← feedsItself id then
        tell tool (named operand ++ ": input file is output file".toList)
        showAll tool w plain rest s 1
      else
        match ← Action.drain id with
        | .error fault => refused fault
        | .ok text =>
          let s := if plain then s.put text else text.foldl (Shown.take w) s
          match ← Action.emit 1 s.output.reverse.flatten with
          | .ok () => showAll tool w plain rest { s with output := [] } status
          | .error fault => outputFault tool fault

/-- `cat`. -/
def cat : Tool := fun tool arguments => do
  let a := readArguments Showing.forms false none arguments
  match a.fault with
  | some message => refuse tool message
  | none =>
    if (← Action.descriptor? 1).isNone then
      outputFault tool Action.badDescriptor
    else
      let operands := orInput a.operands
      let plain := a.options.all (·.1 = 'u')
      let status ← showAll tool (Showing.ofArguments a) plain operands {} 0
      if operands.contains ['-'] && (← Action.descriptor? 0).isNone then
        tell tool ("closing standard input: ".toList
          ++ Action.badDescriptor.words.toList)
        return 1
      else return status

end ApiContract.Shell.Tool
