/-
Streams of octets. The shell and its tools work on octets, whatever text they
spell, so each octet is held as the character below U+0100 of its number, and
text is turned into octets and back only at the border.
-/
import ApiContract.Number.Numeral
import ApiContract.Text.Utf8

namespace ApiContract.Shell

/-- A stream: octets, each held as a character below U+0100. -/
abbrev Stream := List Char

namespace Stream

/-- The octets of a text. -/
def ofText (s : String) : Stream :=
  (Text.Utf8.write s).map fun b => Char.ofNat b.toNat

/-- The octets of a file. -/
def ofBytes (bytes : Bytes) : Stream := bytes.map fun b => Char.ofNat b.toNat

/-- The octets as a file holds them. -/
def toBytes (s : Stream) : Bytes := s.map fun c => UInt8.ofNat c.toNat

/-- The text of a stream, U+FFFD for each broken part. -/
def text (s : Stream) : String := Text.Utf8.readLenient s.toBytes

/-- A number as decimal digits. -/
def ofNat (n : Nat) : Stream := Nat.toDigits 10 n

/-- A number as decimal digits with its sign. -/
def ofInt (i : Int) : Stream :=
  if i < 0 then '-' :: ofNat i.natAbs else ofNat i.natAbs

/-- The number that decimal digits spell. -/
def number? (s : Stream) : Option Nat :=
  if s.isEmpty || !s.all Char.isDigit then none
  else some (Number.Numeral.digitsValue s)

/-- The lines of a stream, each with its line feed; the last may have
none. -/
def lines (s : Stream) : List Stream :=
  go s (s.length + 1)
where
  /-- The lines, with a bound on their number. -/
  go (s : Stream) : Nat → List Stream
    | 0 => []
    | fuel + 1 =>
      match s.span (· ≠ '\n') with
      | ([], []) => []
      | (l, []) => [l]
      | (l, c :: rest) => (l ++ [c]) :: go rest fuel

/-- A blank of the C locale. -/
def isSpace (c : Char) : Bool := c = ' ' || ('\t' ≤ c && c ≤ '\r')

/-- A letter that may begin a name. -/
def isNameStart (c : Char) : Bool := c.isAlpha || c = '_'

/-- A character of names. -/
def isNameChar (c : Char) : Bool := c.isAlphanum || c = '_'

/-- The stream is a name. -/
def isName (s : Stream) : Bool :=
  s.head?.any isNameStart && s.all isNameChar

end Stream

end ApiContract.Shell
