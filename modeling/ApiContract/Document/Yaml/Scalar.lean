/-
The texts of YAML scalars: plain, quoted, and in blocks. Each function starts
at a scalar and yields its text with the place behind it; `none` means that
the scalar is not well formed.

Inside plain and quoted scalars, blanks at a line break fold: one break
becomes a space, further breaks stay. Loops run on a count that starts with
the length of what is left, which no loop can use up.
-/
import ApiContract.Document.Yaml.Cursor
import ApiContract.Text.Chars

namespace ApiContract.Yaml

-- ============================================================= folding

/-- Blanks between two parts of a scalar: spaces on one line, or a first
break with the breaks behind it. -/
structure Blanks where
  broken : Bool := false
  spaces : List Char := []
  first : List Char := []
  further : List Char := []

/-- What the blanks contribute to the text. -/
def Blanks.folded (b : Blanks) : List Char :=
  if b.broken then
    if b.first = ['\n'] then
      if b.further.isEmpty then [' '] else b.further
    else b.first ++ b.further
  else b.spaces

/-- Reads blanks. A tab at the start of a line, left of `indent`, is refused;
`none` for the indent allows tabs everywhere. -/
def readBlanks (indent : Option Int) :
    Nat → Blanks → Cursor → Option (Blanks × Cursor)
  | 0, b, p => some (b, p)
  | fuel + 1, b, p =>
    match p.next? with
    | none => some (b, p)
    | some c =>
      if isGap c then
        if b.broken && c = '\t' && indent.any fun i => (p.column : Int) < i then
          none
        else if b.broken then readBlanks indent fuel b (p.advance 1)
        else
          readBlanks indent fuel { b with spaces := b.spaces ++ [c] }
            (p.advance 1)
      else if isBreak c then
        let (read, p) := p.readBreak
        if b.broken then
          readBlanks indent fuel { b with further := b.further ++ read } p
        else
          readBlanks indent fuel
            { b with broken := true, spaces := [], first := read } p
      else some (b, p)

-- =============================================================== plain

/-- The number of characters up to where a plain scalar pauses: at a blank,
at a colon before an open end, and in a flow collection at its punctuation.
In a flow collection a colon before punctuation is refused. -/
def plainSpan (inFlow : Bool) : List Char → Option Nat
  | [] => some 0
  | c :: rest =>
    if isGap c || isBreak c then some 0
    else if c = ':' && inFlow
        && rest.head?.any fun d =>
          [',', '?', '[', ']', '{', '}'].contains d
      then none
    else if c = ':' && isOpenEnd rest.head? then some 0
    else if inFlow && [',', '[', ']', '{', '}'].contains c then some 0
    else (plainSpan inFlow rest).map (· + 1)

/-- A plain scalar from some text on: its text, the place behind it and the
blanks there, and whether these blanks break the line. -/
def readPlain (inFlow : Bool) (indent : Int) :
    Nat → List Char → Blanks → Cursor → Option (List Char × Cursor × Bool)
  | 0, text, b, p => some (text, p, b.broken)
  | fuel + 1, text, b, p => do
    if p.atMarker '-' || p.atMarker '.' || p.isAt '#' then
      return (text, p, b.broken)
    let n ← plainSpan inFlow p.rest
    let (text, b) : List Char × Blanks :=
      if n = 0 then (text, b) else (text ++ b.folded ++ p.rest.take n, {})
    let p := p.advance n
    if !(p.atGap || p.atBreak) then return (text, p, b.broken)
    let (b, p) ← readBlanks (some indent) (p.rest.length + 1) b p
    if !inFlow && (p.column : Int) < indent then return (text, p, b.broken)
    readPlain inFlow indent fuel text b p

-- ============================================================== quoted

/-- The character behind a backslash in a double-quoted scalar, if it is a
short escape. -/
def shortEscape? (c : Char) : Option Char :=
  match c with
  | '0' => some '\x00'
  | 'a' => some '\x07'
  | 'b' => some '\x08'
  | 't' => some '\t'
  | '\t' => some '\t'
  | 'n' => some '\n'
  | 'v' => some '\x0b'
  | 'f' => some '\x0c'
  | 'r' => some '\r'
  | 'e' => some '\x1b'
  | ' ' => some ' '
  | '"' => some '"'
  | '/' => some '/'
  | '\\' => some '\\'
  | 'N' => some '\u0085'
  | '_' => some '\u00a0'
  | 'L' => some '\u2028'
  | 'P' => some '\u2029'
  | _ => none

/-- How many hexadecimal digits an escape has. -/
def escapeLength? (c : Char) : Option Nat :=
  match c with
  | 'x' => some 2
  | 'u' => some 4
  | 'U' => some 8
  | _ => none

/-- The escape behind a backslash: its character and its length. -/
def readEscape (cs : List Char) : Option (Char × Nat) :=
  match cs with
  | [] => none
  | c :: rest =>
    match shortEscape? c with
    | some e => some (e, 1)
    | none => do
      let n ← escapeLength? c
      let digits := rest.take n
      if digits.length ≠ n then failure
      let value ← Text.hexNumber? digits
      if (0xD800 ≤ value && value ≤ 0xDFFF) || 0x10FFFF < value then failure
      return (Char.ofNat value, n + 1)

/-- The part of a quoted scalar up to a blank, the closing quote or the end:
its text, the place behind it, and whether an escaped break ended it. -/
def readQuotedRun (single : Bool) :
    Nat → List Char → Cursor → Option (List Char × Cursor × Bool)
  | 0, text, p => some (text, p, false)
  | fuel + 1, text, p =>
    match p.rest with
    | [] => some (text, p, false)
    | c :: rest =>
      if isGap c || isBreak c then some (text, p, false)
      else if single then
        if c = '\'' then
          if rest.head? = some '\'' then
            readQuotedRun single fuel (text ++ ['\'']) (p.advance 2)
          else some (text, p, false)
        else readQuotedRun single fuel (text ++ [c]) (p.advance 1)
      else if c = '"' then some (text, p, false)
      else if c = '\\' then
        if rest.head?.any isBreak then
          some (text, (p.advance 1).skipBreak, true)
        else
          match readEscape rest with
          | none => none
          | some (e, n) =>
            readQuotedRun single fuel (text ++ [e]) (p.advance (n + 1))
      else readQuotedRun single fuel (text ++ [c]) (p.advance 1)

/-- A quoted scalar behind its opening quote, from some text on. A document
marker inside it is refused. -/
def readQuoted (single : Bool) :
    Nat → List Char → Cursor → Option (List Char × Cursor)
  | 0, _, _ => none
  | fuel + 1, text, p => do
    if p.atMarker '-' || p.atMarker '.' || p.rest.isEmpty then failure
    let (text, p, escaped) ←
      readQuotedRun single (p.rest.length + 1) text p
    if p.isAt (if single then '\'' else '"') then
      return (text, p.advance 1)
    let (b, p) ← readBlanks none (p.rest.length + 1) { broken := escaped } p
    readQuoted single fuel (text ++ b.folded) p

-- =============================================================== block

/-- The line breaks between the lines of a block scalar with the indentation
spaces behind them. An indent of zero is still to be found; a tab in its
place is refused. Yields the breaks, the widest indentation and the place. -/
def readBlockBreaks (indent : Nat) :
    Nat → List Char → Nat → Cursor → Option (List Char × Nat × Cursor)
  | 0, breaks, widest, p => some (breaks, widest, p)
  | fuel + 1, breaks, widest, p =>
    let spaces := (p.rest.takeWhile (· = ' ')).length
    let wanted := if indent = 0 then spaces else min spaces (indent - p.column)
    let p := p.advance wanted
    let widest := max widest p.column
    if (indent = 0 || p.column < indent) && p.isAt '\t' then none
    else if p.atBreak then
      let (read, p) := p.readBreak
      readBlockBreaks indent fuel (breaks ++ read) widest p
    else some (breaks, widest, p)

/-- The lines of a block scalar at a known indent: text so far, the last
break, the empty lines behind it, and whether the last line began with a
blank. In a folded scalar the break between two lines that do not begin with
a blank becomes a space, or nothing when empty lines follow it. -/
def readBlockLines (folded : Bool) (indent : Nat) :
    Nat → List Char → List Char → List Char → Bool → Cursor →
      Option (List Char × List Char × List Char × Cursor)
  | 0, text, last, empty, _, p => some (text, last, empty, p)
  | fuel + 1, text, last, empty, ledByBlank, p =>
    if p.column = indent && !p.rest.isEmpty then do
      let blank := p.atGap
      let joint :=
        if folded && last.head? = some '\n' && !ledByBlank && !blank then
          if empty.isEmpty then [' '] else []
        else last
      let line := p.rest.takeWhile (!isBreak ·)
      let text := text ++ joint ++ empty ++ line
      let (last, p) := (p.advance line.length).readBreak
      let (empty, _, p) ←
        readBlockBreaks indent (p.rest.length + 1) [] 0 p
      readBlockLines folded indent fuel text last empty blank p
    else some (text, last, empty, p)

/-- What a block scalar does with the breaks at its end: keep one, keep none,
keep all. -/
inductive Chomping where
  | clip
  | strip
  | keep
  deriving DecidableEq, Repr

/-- The chomping that a character asks for. -/
def chomping? : Option Char → Option Chomping
  | some '+' => some .keep
  | some '-' => some .strip
  | _ => none

/-- The indentation that a digit asks for. -/
def increment? : Option Char → Option Nat
  | some c => if c.isDigit then some (c.toNat - 0x30) else none
  | none => none

/-- The head of a block scalar behind its indicator: chomping and indentation
in either order. An indentation of zero is refused. -/
def readBlockHead (p : Cursor) : Option (Chomping × Option Nat × Cursor) := do
  let (chomping, increment, p) : Chomping × Option Nat × Cursor :=
    match chomping? p.next? with
    | some c =>
      let p := p.advance 1
      match increment? p.next? with
      | some n => (c, some n, p.advance 1)
      | none => (c, none, p)
    | none =>
      match increment? p.next? with
      | some n =>
        let p := p.advance 1
        match chomping? p.next? with
        | some c => (c, some n, p.advance 1)
        | none => (.clip, some n, p)
      | none => (.clip, none, p)
  if increment = some 0 then failure
  let p := (p.skipWhile isGap).skipComment
  if !p.atLineEnd then failure
  return (chomping, increment, p.skipBreak)

/-- A block scalar behind its indicator, inside a collection at `parent`. -/
def readBlock (folded : Bool) (parent : Int) (p : Cursor) :
    Option (List Char × Cursor) := do
  let (chomping, increment, p) ← readBlockHead p
  let given : Nat :=
    match increment with
    | none => 0
    | some n => if 0 ≤ parent then (parent + n).toNat else n
  let (empty, widest, p) ←
    readBlockBreaks given (p.rest.length + 1) [] 0 p
  let indent : Nat :=
    if given = 0 then max (max widest (parent + 1).toNat) 1 else given
  let (text, last, empty, p) ←
    readBlockLines folded indent (p.rest.length + 1) [] [] empty false p
  let tail :=
    match chomping with
    | .clip => last
    | .strip => []
    | .keep => last ++ empty
  return (text ++ tail, p)

end ApiContract.Yaml
