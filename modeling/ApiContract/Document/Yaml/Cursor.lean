/-
A place in a YAML text: what is left to read, and where that is. Five
characters break a line; a carriage return with a line feed behind it is one
break. Reading a break yields a line feed for all but the two separators of
Unicode, which stay what they are.
-/

namespace ApiContract.Yaml

-- ========================================================== characters

/-- A character that breaks a line. -/
def isBreak (c : Char) : Bool :=
  c = '\n' || c = '\r' || c = '\u0085' || c = '\u2028' || c = '\u2029'

/-- A space or a tab. -/
def isGap (c : Char) : Bool := c = ' ' || c = '\t'

/-- A break, a gap, or the end of the text. -/
def isOpenEnd : Option Char → Bool
  | none => true
  | some c => isGap c || isBreak c

/-- A character of anchors and handles. -/
def isWordChar (c : Char) : Bool := c.isAlphanum || c = '_' || c = '-'

/-- A character that a text may hold at all. -/
def isAllowed (c : Char) : Bool :=
  let n := c.toNat
  n = 0x9 || n = 0xA || n = 0xD || (0x20 ≤ n && n ≤ 0x7E) || n = 0x85
    || (0xA0 ≤ n && n ≤ 0xD7FF) || (0xE000 ≤ n && n ≤ 0xFFFD) || 0x10000 ≤ n

-- ============================================================== cursor

/-- A place in a text. The index counts octets of UTF-8, columns count
characters; all count from zero. -/
structure Cursor where
  rest : List Char
  index : Nat
  line : Nat
  column : Nat
  deriving Repr

namespace Cursor

/-- The start of a text. -/
def start (cs : List Char) : Cursor := ⟨cs, 0, 0, 0⟩

/-- The next character. -/
def next? (p : Cursor) : Option Char := p.rest.head?

/-- The character `n` places on. -/
def peek? (p : Cursor) (n : Nat) : Option Char := p.rest[n]?

/-- The next character is this one. -/
def isAt (p : Cursor) (c : Char) : Bool := p.next? == some c

/-- The next character breaks a line. -/
def atBreak (p : Cursor) : Bool := p.next?.any isBreak

/-- The next character is a space or a tab. -/
def atGap (p : Cursor) : Bool := p.next?.any isGap

/-- The text is over or the next character breaks a line. -/
def atLineEnd (p : Cursor) : Bool := p.rest.isEmpty || p.atBreak

/-- How many octets characters have together. -/
def octets (cs : List Char) : Nat := cs.foldl (fun n c => n + c.utf8Size) 0

/-- The place `n` characters further on the same line. -/
def advance (p : Cursor) (n : Nat) : Cursor :=
  ⟨p.rest.drop n, p.index + octets (p.rest.take n), p.line, p.column + n⟩

/-- The place behind the characters of a class. -/
def skipWhile (p : Cursor) (f : Char → Bool) : Cursor :=
  p.advance (p.rest.takeWhile f).length

/-- The place behind a comment, if one starts here. -/
def skipComment (p : Cursor) : Cursor :=
  if p.isAt '#' then p.skipWhile (!isBreak ·) else p

/-- The break at this place as it is read, and the place behind it. -/
def readBreak (p : Cursor) : List Char × Cursor :=
  match p.rest with
  | '\r' :: '\n' :: rest => (['\n'], ⟨rest, p.index + 2, p.line + 1, 0⟩)
  | c :: rest =>
    if isBreak c then
      let read := if c = '\u2028' || c = '\u2029' then c else '\n'
      ([read], ⟨rest, p.index + c.utf8Size, p.line + 1, 0⟩)
    else ([], p)
  | [] => ([], p)

/-- The place behind the break at this place. -/
def skipBreak (p : Cursor) : Cursor := p.readBreak.2

/-- A document marker, three of one character and an open end, starts here:
only at the beginning of a line. -/
def atMarker (p : Cursor) (c : Char) : Bool :=
  p.column = 0 && p.isAt c && p.peek? 1 == some c && p.peek? 2 == some c
    && isOpenEnd (p.peek? 3)

end Cursor

end ApiContract.Yaml
