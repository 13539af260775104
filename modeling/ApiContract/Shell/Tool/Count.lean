/-
`wc`: lines, words, characters, octets and the longest line of operands, and
their sums. All numbers have the same width: that of the greatest one that the
sizes of the operands allow, at least seven when one of them is no plain file;
a single number stands by itself.
-/
import ApiContract.Shell.Tool.Basic

namespace ApiContract.Shell.Tool

/-- What there is in an operand. -/
structure Tally where
  lines : Nat := 0
  words : Nat := 0
  octets : Nat := 0
  longest : Nat := 0

namespace Tally

/-- Both operands together; of the longest lines the longer. -/
def add (s t : Tally) : Tally :=
  ⟨s.lines + t.lines, s.words + t.words, s.octets + t.octets,
    max s.longest t.longest⟩

/-- How far counting has come: the column that is reached, and whether a word
is under way. -/
structure Progress where
  tally : Tally := {}
  column : Nat := 0
  inWord : Bool := false

/-- The line may be the longest, and a new one begins. -/
def Progress.endLine (p : Progress) : Progress :=
  { p with
    tally := { p.tally with longest := max p.tally.longest p.column }
    column := 0
    inWord := false }

/-- One octet. A tab goes on to the next multiple of eight columns. -/
def Progress.take (p : Progress) (c : Char) : Progress :=
  match c with
  | '\n' =>
    let p := p.endLine
    { p with tally := { p.tally with lines := p.tally.lines + 1 } }
  | '\r' | '\x0c' => p.endLine
  | '\t' => { p with column := p.column / 8 * 8 + 8, inWord := false }
  | ' ' => { p with column := p.column + 1, inWord := false }
  | '\x0b' => { p with inWord := false }
  | c =>
    let words := p.tally.words + (if p.inWord then 0 else 1)
    { tally := { p.tally with words }
      column := p.column + (if isPrinting c then 1 else 0)
      inWord := true }

/-- What there is in a text. -/
def ofText (s : Stream) : Tally :=
  let p := (s.foldl Progress.take {}).endLine
  { p.tally with octets := s.length }

end Tally

/-- Which sums are shown. -/
inductive Sums where
  | auto
  | always
  | only
  | never
  deriving DecidableEq

/-- What is shown, by letters, and which sums. -/
structure Columns where
  letters : List Char := []
  sums : Sums := .auto
  names : Option Stream := none

namespace Columns

/-- The options of `wc`. -/
def forms : List OptionForm :=
  [.both 'c' "bytes", .both 'm' "chars", .both 'l' "lines",
    .both 'w' "words", .both 'L' "max-line-length",
    .long 'f' "files0-from" .required, .long 't' "total" .required]

/-- The words for sums. -/
def sumWords : List (String × Sums) :=
  [("auto", .auto), ("always", .always), ("only", .only), ("never", .never)]

/-- What one option asks for. -/
def withOption (w : Columns) (o : Char × Stream) :
    Except Stream Columns :=
  match o.1 with
  | 'f' => .ok { w with names := some o.2 }
  | 't' =>
    let fits := sumWords.filter fun s => o.2.isPrefixOf s.1.toList
    match fits with
    | [(_, sums)] => .ok { w with sums }
    | _ =>
      let kind := if fits.isEmpty then "invalid" else "ambiguous"
      throw (kind.toList ++ " argument ".toList ++ quoted o.2
        ++ " for '--total'\nValid arguments are:".toList
        ++ sumWords.flatMap fun s => "\n  - ".toList ++ quoted s.1.toList)
  | c => .ok { w with letters := c :: w.letters }

/-- The numbers of a tally that are shown. -/
def numbers (w : Columns) (t : Tally) : List Nat :=
  let letters := if w.letters.isEmpty then ['l', 'w', 'c'] else w.letters
  [('l', t.lines), ('w', t.words), ('m', t.octets), ('c', t.octets),
    ('L', t.longest)].filterMap fun (c, n) =>
      if letters.contains c then some n else none

/-- One line: the numbers in their width, and a name. -/
def row (w : Columns) (width : Nat) (t : Tally) (name : Option Stream) :
    Stream :=
  let cells := (w.numbers t).map fun n =>
    let ds := Stream.ofNat n
    List.replicate (width - ds.length) ' ' ++ ds
  List.intercalate [' '] (cells ++ name.toList) ++ ['\n']

/-- The size of an operand: none when there is nothing to ask, or how many
octets a plain file has. -/
def sizeOf? (operand : Stream) : Action (Option (Option Nat)) := do
  match ← openOperand operand with
  | .error _ => return none
  | .ok id =>
    match ← Action.openedAt id with
    | .file path _ _ =>
      let content ← Action.access (.read path .done)
      return some (some ((content.toOption).getD []).length)
    | _ => return some none

/-- The width of numbers for operands. -/
def width (w : Columns) (operands : List Stream) : Action Nat := do
  if w.sums = .only || (operands.length = 1 && (w.numbers {}).length = 1) then
    return 1
  let sizes := (← operands.mapM sizeOf?).filterMap id
  let total := sizes.foldl (fun n s => n + s.getD 0) 0
  let least := if sizes.any Option.isNone then 7 else 1
  return max least (Stream.ofNat total).length

/-- The operands one after another: the lines and the sum so far, and the
status. -/
def countAll (w : Columns) (tool : Stream) (width : Nat) (named' : Bool) :
    List Stream → Stream → Tally → Nat → Action (Stream × Tally × Nat)
  | [], output, sum, status => return (output, sum, status)
  | operand :: rest, output, sum, status => do
    let shown (t : Tally) : Stream :=
      if w.sums = .only then output
      else output ++ w.row width t (if named' then some operand else none)
    let refused (fault : FileFault) : Action Unit :=
      tell tool (named operand ++ ':' :: ' ' :: fault.words.toList)
    match ← openOperand operand with
    | .error fault =>
      refused fault
      countAll w tool width named' rest output sum 1
    | .ok id =>
      match ← Action.drain id with
      | .error fault =>
        refused fault
        countAll w tool width named' rest (shown {}) sum 1
      | .ok text =>
        let t := Tally.ofText text
        countAll w tool width named' rest (shown t) (sum.add t) status

/-- The operands of a call: those given, or the names in a file. -/
def operandsOf (w : Columns) (a : Arguments) :
    Action (Except Stream (List Stream)) := do
  match w.names with
  | none => return .ok (orInput a.operands)
  | some file =>
    match ← openOperand file with
    | .error fault =>
      return .error ("cannot open ".toList ++ quotedWord file
        ++ " for reading: ".toList ++ fault.words.toList)
    | .ok id =>
      let names := ((← Action.drain id).toOption).getD []
      return .ok (((names.splitOn '\x00').filter (!·.isEmpty)))

end Columns

/-- `wc`. -/
def wc : Tool := fun tool arguments => do
  let a := readArguments Columns.forms false none arguments
  match a.options.foldlM Columns.withOption {}, a.fault with
  | .error message, _ | .ok _, some message => refuse tool message
  | .ok w, none =>
    match ← w.operandsOf a with
    | .error message =>
      tell tool message
      return 1
    | .ok operands =>
      let width ← w.width operands
      let named' := !a.operands.isEmpty || w.names.isSome
      let (output, sum, status) ←
        w.countAll tool width named' operands [] {} 0
      let last : Stream :=
        match w.sums with
        | .never => []
        | .only => w.row width sum none
        | sums =>
          if sums = .always || 1 < operands.length then
            w.row width sum (some "total".toList)
          else []
      finish tool (output ++ last) status

end ApiContract.Shell.Tool
