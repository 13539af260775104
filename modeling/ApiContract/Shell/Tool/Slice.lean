/-
`head` and `tail`: the first or the last lines or octets of operands, or all
but the last or the first. What is written comes when all is done, so messages
come before it.

`head` reads a stream block by block, so more of it is gone than is shown;
from a file, which can be read again from an earlier place, it takes no more
than it shows.
-/
import ApiContract.Shell.Tool.Basic

namespace ApiContract.Shell.Tool

/-- Which operands have their names shown. -/
inductive Heading where
  | several
  | always
  | never
  deriving DecidableEq

/-- What part of an operand is shown: so many lines or octets, at this end or
all but those at the other. -/
structure Slice where
  lines : Bool := true
  count : Nat := 10
  inverted : Bool := false
  heading : Heading := .several
  zeros : Bool := false

namespace Slice

/-- What is counted, in words. -/
def unit (lines : Bool) : String := if lines then "lines" else "bytes"

/-- The octet that ends a line. -/
def lineEnd (w : Slice) : Char := if w.zeros then '\x00' else '\n'

/-- The length of the first `n` lines. -/
def lengthOfLines (c : Char) : Nat → Stream → Nat
  | 0, _ => 0
  | _, [] => 0
  | n + 1, d :: cs =>
    if d = c then lengthOfLines c n cs + 1 else lengthOfLines c (n + 1) cs + 1

/-- How many lines there are, the last perhaps without its end. -/
def countLines (c : Char) (s : Stream) : Nat :=
  s.count c + (if s.getLast?.all (· = c) then 0 else 1)

/-- How much of the first octets counts as so many lines or octets. -/
def lengthOf (w : Slice) (n : Nat) (s : Stream) : Nat :=
  if w.lines then lengthOfLines w.lineEnd n s else min n s.length

/-- How many lines or octets there are. -/
def size (w : Slice) (s : Stream) : Nat :=
  if w.lines then countLines w.lineEnd s else s.length

/-- The length of the part at the start that is shown. -/
def startLength (w : Slice) (s : Stream) : Nat :=
  w.lengthOf (if w.inverted then w.size s - w.count else w.count) s

/-- The length of the part before the end that is not shown. -/
def endStart (w : Slice) (s : Stream) : Nat :=
  w.lengthOf
    (if w.inverted then w.count - 1 else w.size s - w.count) s

/-- The options of both tools. -/
def forms : List OptionForm :=
  [.both 'c' "bytes" .required, .both 'n' "lines" .required,
    .both 'q' "quiet", .long 'q' "silent", .both 'v' "verbose",
    .both 'z' "zero-terminated"]
    ++ "0123456789".toList.map fun c => .short c

/-- What one option asks for, with its value read by the tool. -/
def withOption (readCount : Bool → Stream → Except Stream (Nat × Bool))
    (w : Slice) (o : Char × Stream) : Except Stream Slice :=
  match o.1 with
  | 'c' => do
    let (count, inverted) ← readCount false o.2
    return { w with lines := false, count, inverted }
  | 'n' => do
    let (count, inverted) ← readCount true o.2
    return { w with lines := true, count, inverted }
  | 'q' => .ok { w with heading := .never }
  | 'v' => .ok { w with heading := .always }
  | _ => .ok { w with zeros := true }

/-- The line above an operand, with an empty one before it unless it is the
first. -/
def header (first : Bool) (operand : Stream) : Stream :=
  let name := if operand = ['-'] then "standard input".toList else operand
  (if first then [] else ['\n']) ++ "==> ".toList ++ name ++ " <==\n".toList

/-- What an operand is called in messages. -/
def called (operand : Stream) : Stream :=
  quotedWord (if operand = ['-'] then "standard input".toList else operand)

/-- The operands one after another: the output so far, and the status. -/
def showAll (w : Slice) (tool : Stream) (headed : Bool)
    (part : Nat → Action (Except FileFault Stream)) :
    List Stream → Bool → Stream → Nat → Action Nat
  | [], _, output, status => finish tool output status
  | operand :: rest, first, output, status => do
    match ← openOperand operand with
    | .error fault =>
      tell tool ("cannot open ".toList ++ called operand
        ++ " for reading: ".toList ++ fault.words.toList)
      showAll w tool headed part rest first output 1
    | .ok id =>
      let output := if headed then output ++ header first operand else output
      match ← part id with
      | .ok text =>
        showAll w tool headed part rest (first && !headed) (output ++ text)
          status
      | .error fault =>
        tell tool ("error reading ".toList ++ called operand
          ++ [':', ' '] ++ fault.words.toList)
        showAll w tool headed part rest (first && !headed) output 1

/-- Names are shown above the operands. -/
def isHeaded (w : Slice) (operands : List Stream) : Bool :=
  w.heading = .always || (w.heading = .several && 1 < operands.length)

end Slice

-- =================================================================== head

/-- How much of a stream is read at once. -/
def blockSize : Nat := 8192

/-- The part of something opened that `head` shows. -/
def takeHead (w : Slice) (id : Nat) : Action (Except FileFault Stream) := do
  if w.count = 0 && !w.inverted then return .ok []
  match ← Action.lookAhead id with
  | .error fault => return .error fault
  | .ok text =>
    let n := w.startLength text
    let gone ← do
      if ← Action.isSeekable id then pure n
      else if w.inverted then pure text.length
      else if w.lines then
        pure ((n + blockSize - 1) / blockSize * blockSize)
      else pure n
    Action.pass id (min gone text.length)
    return .ok (text.take n)

/-- The count of `head`; with a minus sign, of what is left out. -/
def readHeadCount (lines : Bool) (s : Stream) :
    Except Stream (Nat × Bool) :=
  let (inverted, s) : Bool × Stream :=
    match s with
    | '-' :: rest => (true, rest)
    | rest => (false, rest)
  match readSize s with
  | .ok n => .ok (n, inverted)
  | .error fault => .error (fault.message (Slice.unit lines) s)

/-- Letters behind the number of a short form of `head`: what they ask for,
and the last letter for a size; or the one that is wrong. -/
def headLetters (w : Slice) (unit : Stream) :
    Stream → Except Stream (Slice × Stream)
  | [] => .ok (w, unit)
  | c :: cs =>
    match c with
    | 'c' => headLetters { w with lines := false } [] cs
    | 'b' | 'k' | 'm' => headLetters { w with lines := false } [c] cs
    | 'l' => headLetters { w with lines := true } unit cs
    | 'q' => headLetters { w with heading := .never } unit cs
    | 'v' => headLetters { w with heading := .always } unit cs
    | 'z' => headLetters { w with zeros := true } unit cs
    | c => .error ("invalid trailing option -- ".toList ++ [c])

/-- What is wrong with a call of a tool, and whether advice is given. -/
abbrev CallFault := Stream × Bool

/-- The short form of `head`, a sign with a number and letters, may come
first. -/
def readHeadStart (arguments : List Stream) :
    Except CallFault (Slice × List Stream) :=
  match arguments with
  | ('-' :: c :: cs) :: rest =>
    if c.isDigit then do
      let ds := (c :: cs).takeWhile Char.isDigit
      let letters := (c :: cs).drop ds.length
      let (w, unit) ← (headLetters {} [] letters).mapError (·, true)
      match readSize (ds ++ unit) with
      | .ok n => return ({ w with count := n }, rest)
      | .error fault =>
        throw (fault.message (Slice.unit w.lines) (ds ++ unit), false)
    else .ok ({}, arguments)
  | _ => .ok ({}, arguments)

/-- The call of `head`: what is shown of which operands. -/
def readHead (arguments : List Stream) :
    Except CallFault (Slice × List Stream) := do
  let (w, arguments) ← readHeadStart arguments
  let a := readArguments Slice.forms false none arguments
  let w ← a.options.foldlM (fun (w : Slice) o =>
    if o.1.isDigit then
      throw ("invalid trailing option -- ".toList ++ [o.1], true)
    else (w.withOption readHeadCount o).mapError (·, false)) w
  match a.fault with
  | some message => throw (message, true)
  | none => return (w, orInput a.operands)

/-- Tells what is wrong with a call. -/
def refuseCall (tool : Stream) (fault : CallFault) : Action Nat := do
  tell tool fault.1
  if fault.2 then advise tool
  return 1

/-- `head`. -/
def head : Tool := fun tool arguments =>
  match readHead arguments with
  | .error fault => refuseCall tool fault
  | .ok (w, operands) =>
    w.showAll tool (w.isHeaded operands) (takeHead w) operands true [] 0

-- =================================================================== tail

/-- The count of `tail`; with a plus sign, of where to begin. -/
def readTailCount (lines : Bool) (s : Stream) :
    Except Stream (Nat × Bool) :=
  let digits := match s with
    | '-' :: rest => rest
    | rest => rest
  match readSize digits with
  | .ok n => .ok (n, s.head? = some '+')
  | .error fault => .error (fault.message (Slice.unit lines) digits)

/-- The short form of `tail`, a sign with a number and a letter, when nothing
but an operand follows. -/
def readTailStart? (arguments : List Stream) :
    Option (Slice × List Stream) :=
  let lone : Bool :=
    match arguments with
    | [_] => true
    | [_, operand] =>
      operand = ['-', '-'] || operand = ['-'] || operand.head? ≠ some '-'
    | [_, ['-', '-'], _] => true
    | _ => false
  match arguments with
  | (sign :: text) :: rest =>
    let ds := text.takeWhile Char.isDigit
    let bare : Bool := text = [] || text = ['c']
    if !lone || !(sign = '+' || (sign = '-' && !bare)) then none
    else
      let rest := match rest with
        | ['-', '-'] :: rest => rest
        | rest => rest
      let slice (lines : Bool) (factor : Nat) :
          Option (Slice × List Stream) :=
        let n := if ds.isEmpty then 10 else Arithmetic.valueOf 10 ds
        some ({ lines, count := n * factor, inverted := sign = '+' }, rest)
      match text.drop ds.length with
      | [] | ['l'] => slice true 1
      | ['c'] => slice false 1
      | ['b'] => slice false 512
      | _ => none
  | _ => none

/-- The call of `tail`: what is shown of which operands. -/
def readTail (arguments : List Stream) :
    Except CallFault (Slice × List Stream) := do
  match readTailStart? arguments with
  | some (w, operands) => return (w, orInput operands)
  | none =>
    let a := readArguments Slice.forms false none arguments
    let w ← a.options.foldlM (fun (w : Slice) o =>
      if o.1.isDigit then
        throw ("option used in invalid context -- ".toList ++ [o.1], false)
      else (w.withOption readTailCount o).mapError (·, false)) {}
    match a.fault with
    | some message => throw (message, true)
    | none => return (w, orInput a.operands)

/-- The part of something opened that `tail` shows. -/
def takeTail (w : Slice) (id : Nat) : Action (Except FileFault Stream) := do
  return (← Action.drain id).map fun text => text.drop (w.endStart text)

/-- `tail`. -/
def tail : Tool := fun tool arguments =>
  match readTail arguments with
  | .error fault => refuseCall tool fault
  | .ok (w, operands) =>
    if w.count = 0 && !w.inverted then return 0
    else w.showAll tool (w.isHeaded operands) (takeTail w) operands true [] 0

end ApiContract.Shell.Tool
