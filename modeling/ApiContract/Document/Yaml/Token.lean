/-
YAML tokens. Blocks have no brackets of their own: indentation opens and
closes them, and a key shows itself only by the colon behind it. So the state
of the reading holds the stack of indentations and, for each open flow
collection, the place where a simple key may have begun; the colon then puts
the tokens for the key and its block in front of what was read since.

A simple key ends on its line and within 1024 octets. In a block, one
that stands exactly at the indentation must turn out to be a key.
-/
import ApiContract.Document.Yaml.Scalar
import ApiContract.Text.Utf8

namespace ApiContract.Yaml

/-- A token. The text of a tag is split into its handle and the rest. -/
inductive Token where
  | version (major minor : Nat)
  | tagHandle (handle uri : String)
  | documentStart
  | documentEnd
  | blockSequenceStart
  | blockMappingStart
  | blockEnd
  | flowSequenceStart
  | flowSequenceEnd
  | flowMappingStart
  | flowMappingEnd
  | blockEntry
  | flowEntry
  | key
  | value
  | alias (name : String)
  | anchor (name : String)
  | tag (handle suffix : String)
  | scalar (text : String) (plain : Bool)
  deriving DecidableEq, Repr

/-- Where a simple key may have begun: the number of tokens before it, and
whether it has to be one. -/
structure KeyPlace where
  required : Bool
  tokenNumber : Nat
  index : Nat
  line : Nat
  column : Nat
  deriving Repr

/-- The state of the reading. `keys` has one place for the block and one for
each open flow collection, innermost first. -/
structure Scan where
  cursor : Cursor
  tokens : Array Token := #[]
  indent : Int := -1
  indents : List Int := []
  keyAllowed : Bool := true
  keys : List (Option KeyPlace) := [none]

namespace Scan

/-- A flow collection is open. -/
def inFlow (s : Scan) : Bool := 1 < s.keys.length

/-- One more token. -/
def push (s : Scan) (t : Token) : Scan := { s with tokens := s.tokens.push t }

/-- Goes on behind `n` characters. -/
def skip (s : Scan) (n : Nat) : Scan :=
  { s with cursor := s.cursor.advance n }

-- ========================================================= simple keys

/-- The key place of the innermost collection is given up; an error if a key
had to be there. -/
def dropKey (s : Scan) : Option Scan :=
  match s.keys with
  | some k :: rest =>
    if k.required then none else some { s with keys := none :: rest }
  | _ => some s

/-- A simple key may begin here: its place is noted, if one is allowed. -/
def noteKey (s : Scan) : Option Scan :=
  if s.keyAllowed then do
    let required := !s.inFlow && s.indent == (s.cursor.column : Int)
    let place : KeyPlace :=
      ⟨required, s.tokens.size, s.cursor.index, s.cursor.line,
        s.cursor.column⟩
    let s ← s.dropKey
    return { s with keys := some place :: s.keys.drop 1 }
  else some s

/-- The place lies on an earlier line or too far back. -/
def isStale (p : Cursor) (k : KeyPlace) : Bool :=
  k.line < p.line || k.index + 1024 < p.index

/-- Key places that are out of reach are given up; an error if a key had to
be at one of them. -/
def dropStaleKeys (s : Scan) : Option Scan := do
  let keys ← s.keys.mapM fun
    | none => some none
    | some k =>
      if isStale s.cursor k then (if k.required then none else some none)
      else some (some k)
  return { s with keys := keys }

-- ========================================================= indentation

/-- Opens a block at a column right of the indentation, its token at the end
or before the token of the given number. -/
def openBlock (s : Scan) (column : Nat) (before : Option Nat) (t : Token) :
    Scan :=
  if !s.inFlow && s.indent < (column : Int) then
    { s with
      indents := s.indent :: s.indents
      indent := column
      tokens :=
        match before with
        | none => s.tokens.push t
        | some n => s.tokens.insertIdxIfInBounds n t }
  else s

/-- Closes the blocks right of a column, given their indentations. -/
def closeTo (column : Int) : List Int → Scan → Scan
  | [], s => s
  | outer :: rest, s =>
    if column < s.indent then
      closeTo column rest
        { s with
          indent := outer, indents := rest, tokens := s.tokens.push .blockEnd }
    else s

/-- Closes the blocks right of a column; a flow collection closes none. -/
def closeBlocks (s : Scan) (column : Int) : Scan :=
  if s.inFlow then s else closeTo column s.indents s

-- ======================================================== to the next token

/-- Passes over blanks, comments, line breaks, and a byte order mark that
begins a line. A line break in a block allows a simple key. Tabs count as
blanks where no simple key can begin. -/
def toNextToken : Nat → Scan → Scan
  | 0, s => s
  | fuel + 1, s =>
    let p := s.cursor
    let p := if p.column = 0 && p.isAt '\uFEFF' then p.advance 1 else p
    let tabs := s.inFlow || !s.keyAllowed
    let p := p.skipWhile fun c => c = ' ' || (tabs && c = '\t')
    let p := p.skipComment
    if p.atBreak then
      toNextToken fuel
        { s with
          cursor := p.skipBreak, keyAllowed := s.keyAllowed || !s.inFlow }
    else { s with cursor := p }

-- ================================================= tags and directives

/-- The characters that a tag may hold; a verbatim one may hold flow
punctuation as well. -/
def isTagChar (verbatim : Bool) (c : Char) : Bool :=
  isWordChar c
    || [';', '/', '?', ':', '@', '&', '=', '+', '$', '.', '!', '~', '*', '\'',
        '(', ')'].contains c
    || (verbatim && [',', '[', ']'].contains c)

/-- How many octets a character has that begins with this octet. -/
def octetCount? (b : Nat) : Option Nat :=
  if b < 0x80 then some 1
  else if b / 0x20 = 6 then some 2
  else if b / 0x10 = 14 then some 3
  else if b / 8 = 30 then some 4
  else none

/-- An escaped octet, `%` with two digits. -/
def readOctet : List Char → Option (Nat × List Char)
  | '%' :: a :: b :: rest => (Text.hexNumber? [a, b]).map (·, rest)
  | _ => none

/-- Further octets of one escaped character. -/
def readOctets : Nat → List UInt8 → List Char → Option (List UInt8 × List Char)
  | 0, done, cs => some (done, cs)
  | n + 1, done, cs => do
    let (b, cs) ← readOctet cs
    if b / 0x40 ≠ 2 then failure
    readOctets n (done ++ [UInt8.ofNat b]) cs

/-- The text of a tag from some text on, and what follows it. Escaped octets
make up characters of UTF-8. -/
def readTagText (verbatim : Bool) :
    Nat → List Char → List Char → Option (List Char × List Char)
  | 0, text, cs => some (text, cs)
  | fuel + 1, text, cs =>
    match cs with
    | [] => some (text, [])
    | c :: rest =>
      if c = '%' then do
        let (b, cs) ← readOctet cs
        let n ← octetCount? b
        let (bytes, cs) ← readOctets (n - 1) [UInt8.ofNat b] cs
        let s ← Text.Utf8.read? bytes
        readTagText verbatim fuel (text ++ s.toList) cs
      else if isTagChar verbatim c then
        readTagText verbatim fuel (text ++ [c]) rest
      else some (text, cs)

/-- The text of a tag behind a head that is already read; together they must
not be empty. -/
def readTagBehind (verbatim : Bool) (head : List Char) (p : Cursor) :
    Option (List Char × Cursor) := do
  let (text, rest) ←
    readTagText verbatim (p.rest.length + 1) [] p.rest
  if head.isEmpty && text.isEmpty then failure
  return (head.drop 1 ++ text, p.advance (p.rest.length - rest.length))

/-- A handle: `!`, word characters, perhaps `!`. -/
def readHandle (p : Cursor) : Option (List Char × Cursor) :=
  if p.isAt '!' then
    let word := (p.rest.drop 1).takeWhile isWordChar
    let q := p.advance (word.length + 1)
    if q.isAt '!' then some ('!' :: word ++ ['!'], q.advance 1)
    else some ('!' :: word, q)
  else none

/-- A tag: verbatim between angle brackets, behind a named handle, or behind
the plain handle. A lone `!` has no handle. -/
def readTag (s : Scan) : Option Scan := do
  let p := s.cursor
  let (handle, suffix, p) : List Char × List Char × Cursor ←
    if p.peek? 1 = some '<' then do
      let (text, p) ← readTagBehind true [] (p.advance 2)
      if p.isAt '>' then some ([], text, p.advance 1) else none
    else do
      let (handle, q) ← readHandle p
      if 1 < handle.length && handle.getLast? == some '!' then do
        let (text, q) ← readTagBehind false [] q
        some (handle, text, q)
      else do
        let (text, q) ← readTagBehind false handle q
        if text.isEmpty then some ([], ['!'], q) else some (['!'], text, q)
  if !(s.inFlow && p.isAt ',') && !isOpenEnd p.next? then failure
  return { s with cursor := p }.push
    (.tag (String.ofList handle) (String.ofList suffix))

/-- Up to nine digits. -/
def readVersionNumber (p : Cursor) : Option (Nat × Cursor) :=
  let ds := p.rest.takeWhile Char.isDigit
  if ds.isEmpty || 9 < ds.length then none
  else
    some (ds.foldl (fun n c => n * 10 + (c.toNat - 0x30)) 0,
      p.advance ds.length)

/-- A directive behind its `%`: the version of the format, or a handle for
tags. Others are refused. -/
def readDirective (s : Scan) : Option Scan := do
  let p := s.cursor.advance 1
  let name := p.rest.takeWhile isWordChar
  let p := p.advance name.length
  if name.isEmpty || !isOpenEnd p.next? then failure
  let (token, p) ←
    if name = "YAML".toList then do
      let (major, p) ← readVersionNumber (p.skipWhile isGap)
      if !p.isAt '.' then failure
      let (minor, p) ← readVersionNumber (p.advance 1)
      some (Token.version major minor, p)
    else if name = "TAG".toList then do
      let (handle, p) ← readHandle (p.skipWhile isGap)
      if handle ≠ ['!'] ∧ handle.getLast? ≠ some '!' then failure
      if !p.atGap then failure
      let p := p.skipWhile isGap
      let (uri, p) ← readTagBehind true [] p
      if !isOpenEnd p.next? then failure
      some (Token.tagHandle (String.ofList handle) (String.ofList uri), p)
    else none
  let p := (p.skipWhile isGap).skipComment
  if !p.atLineEnd then failure
  return { s with cursor := p.skipBreak }.push token

-- ========================================================= single tokens

/-- A directive or document marker: blocks are closed and no key is open. -/
def leaveContent (s : Scan) : Option Scan := do
  let s ← (s.closeBlocks (-1)).dropKey
  return { s with keyAllowed := false }

/-- The opening of a flow collection, which may itself be in a key. -/
def openFlow (s : Scan) (t : Token) : Option Scan := do
  let s ← s.noteKey
  return ({ s with keys := none :: s.keys, keyAllowed := true }.push t).skip 1

/-- The closing of a flow collection. -/
def closeFlow (s : Scan) (t : Token) : Option Scan := do
  let s ← s.dropKey
  let keys := if s.inFlow then s.keys.drop 1 else s.keys
  return ({ s with keys := keys, keyAllowed := false }.push t).skip 1

/-- The comma of flow collections. -/
def flowEntry (s : Scan) : Option Scan := do
  let s ← s.dropKey
  return ({ s with keyAllowed := true }.push .flowEntry).skip 1

/-- The dash of block sequences. -/
def blockEntry (s : Scan) : Option Scan := do
  if !s.inFlow && !s.keyAllowed then failure
  let s ← (s.openBlock s.cursor.column none .blockSequenceStart).dropKey
  return ({ s with keyAllowed := true }.push .blockEntry).skip 1

/-- The question mark of explicit keys. -/
def explicitKey (s : Scan) : Option Scan := do
  if !s.inFlow && !s.keyAllowed then failure
  let s ← (s.openBlock s.cursor.column none .blockMappingStart).dropKey
  return ({ s with keyAllowed := !s.inFlow }.push .key).skip 1

/-- The colon. What began at the innermost key place was a key: its token,
and that of a block that begins with it, go in front. -/
def keyValue (s : Scan) : Option Scan :=
  match s.keys with
  | some k :: rest =>
    let s :=
      { s with tokens := s.tokens.insertIdxIfInBounds k.tokenNumber .key }
    let s := s.openBlock k.column (some k.tokenNumber) .blockMappingStart
    some (({ s with keys := none :: rest, keyAllowed := false }.push
      .value).skip 1)
  | _ =>
    if !s.inFlow && !s.keyAllowed then none
    else
      let s := s.openBlock s.cursor.column none .blockMappingStart
      some (({ s with keyAllowed := !s.inFlow }.push .value).skip 1)

/-- An anchor or alias: a word behind its indicator, and an end of it. -/
def anchorOrAlias (s : Scan) (token : String → Token) : Option Scan := do
  let s ← s.noteKey
  let p := s.cursor.advance 1
  let word := p.rest.takeWhile isWordChar
  let p := p.advance word.length
  let ended := isOpenEnd p.next?
    || p.next?.any fun c =>
      ['?', ':', ',', ']', '}', '%', '@', '\x60'].contains c
  if word.isEmpty || !ended then failure
  return { s with cursor := p, keyAllowed := false }.push
    (token (String.ofList word))

/-- A block scalar. -/
def blockScalar (s : Scan) (folded : Bool) : Option Scan := do
  let s ← s.dropKey
  let (text, p) ← readBlock folded s.indent (s.cursor.advance 1)
  return { s with cursor := p, keyAllowed := true }.push
    (.scalar (String.ofList text) false)

/-- A quoted scalar. -/
def quotedScalar (s : Scan) (single : Bool) : Option Scan := do
  let s ← s.noteKey
  let p := s.cursor.advance 1
  let (text, p) ← readQuoted single (p.rest.length + 1) [] p
  return { s with cursor := p, keyAllowed := false }.push
    (.scalar (String.ofList text) false)

/-- A plain scalar. One that ends at a line break leaves room for a key. -/
def plainScalar (s : Scan) : Option Scan := do
  let s ← s.noteKey
  let p := s.cursor
  let (text, p, broken) ←
    readPlain s.inFlow (s.indent + 1) (p.rest.length + 1) [] {} p
  return { s with cursor := p, keyAllowed := broken }.push
    (.scalar (String.ofList text) true)

/-- A plain scalar may begin here. -/
def plainMayBegin (s : Scan) (c : Char) : Bool :=
  let next := s.cursor.peek? 1
  !(isGap c || isBreak c
      || ['-', '?', ':', ',', '[', ']', '{', '}', '#', '&', '*', '!', '|',
          '>', '\'', '"', '%', '@', '\x60'].contains c)
    || (c = '-' && !next.any isGap)
    || (!s.inFlow && (c = '?' || c = ':') && !isOpenEnd next)

/-- The token that begins with a character. -/
def nextToken (s : Scan) (c : Char) : Option Scan :=
  let p := s.cursor
  let open1 := isOpenEnd (p.peek? 1)
  if p.column = 0 && c = '%' then do
    (← s.leaveContent).readDirective
  else if p.atMarker '-' then do
    return ((← s.leaveContent).push .documentStart).skip 3
  else if p.atMarker '.' then do
    return ((← s.leaveContent).push .documentEnd).skip 3
  else if c = '[' then s.openFlow .flowSequenceStart
  else if c = '{' then s.openFlow .flowMappingStart
  else if c = ']' then s.closeFlow .flowSequenceEnd
  else if c = '}' then s.closeFlow .flowMappingEnd
  else if c = ',' then s.flowEntry
  else if c = '-' && open1 then s.blockEntry
  else if c = '?' && (s.inFlow || open1) then s.explicitKey
  else if c = ':' && (s.inFlow || open1) then s.keyValue
  else if c = '*' then s.anchorOrAlias .alias
  else if c = '&' then s.anchorOrAlias .anchor
  else if c = '!' then do
    let s ← s.noteKey
    { s with keyAllowed := false }.readTag
  else if c = '|' && !s.inFlow then s.blockScalar false
  else if c = '>' && !s.inFlow then s.blockScalar true
  else if c = '\'' then s.quotedScalar true
  else if c = '"' then s.quotedScalar false
  else if s.plainMayBegin c then s.plainScalar
  else none

/-- The end of the text closes all blocks. -/
def finish (s : Scan) : Option Scan := (s.closeBlocks (-1)).dropKey

/-- Reads tokens to the end of the text. -/
def run : Nat → Scan → Option Scan
  | 0, _ => none
  | fuel + 1, s => do
    let s := s.toNextToken (s.cursor.rest.length + 1)
    let s ← s.dropStaleKeys
    let s := s.closeBlocks s.cursor.column
    match s.cursor.next? with
    | none => s.finish
    | some c => run fuel (← s.nextToken c)

end Scan

/-- The tokens of a text; none when it has a character that no text may hold
or cannot be taken apart. Each token takes a character at least. -/
def tokens? (cs : List Char) : Option (List Token) :=
  if cs.all isAllowed then
    (Scan.run (cs.length + 2) { cursor := Cursor.start cs }).map
      (·.tokens.toList)
  else none

end ApiContract.Yaml
