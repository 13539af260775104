/-
Characters and what is told of them: the ranges that a class of characters is
given by, the blanks, the hexadecimal digits, and the curly brackets. A text
counts as absent in several rules of the library when nothing but blanks is
left of it. The brackets have names of their own as texts, so that what the
library writes can be spelled with the text between them.
-/

namespace ApiContract.Text

-- ============================================================== classes

/-- The character lies in one of the ranges. -/
def isIn (ranges : List (Nat × Nat)) (c : Char) : Bool :=
  ranges.any fun (first, last) => first ≤ c.toNat && c.toNat ≤ last

/-- The characters with the White_Space property. -/
def isBlank (c : Char) : Bool :=
  let n := c.toNat
  (0x9 ≤ n && n ≤ 0xD) || n == 0x20 || n == 0x85 || n == 0xA0
    || n == 0x1680 || (0x2000 ≤ n && n ≤ 0x200A) || n == 0x2028
    || n == 0x2029 || n == 0x202F || n == 0x205F || n == 0x3000

/-- No character but blanks; so also the empty text. -/
def isAllBlank (s : String) : Bool := s.toList.all isBlank

/-- The text between the blanks at its two ends. -/
def trim (s : String) : String :=
  String.ofList
    ((s.toList.dropWhile isBlank).reverse.dropWhile isBlank).reverse

-- ==================================================== hexadecimal digits

/-- A hexadecimal digit in lower case, for a number below 16. -/
def hexDigit (n : Nat) : Char :=
  if n < 10 then Char.ofNat (0x30 + n) else Char.ofNat (0x57 + n)

/-- The value of a hexadecimal digit in either case. -/
def hexValue? (c : Char) : Option Nat :=
  let n := c.toNat
  if 0x30 ≤ n && n ≤ 0x39 then some (n - 0x30)
  else if 0x61 ≤ n && n ≤ 0x66 then some (n - 0x57)
  else if 0x41 ≤ n && n ≤ 0x46 then some (n - 0x37)
  else none

/-- The number that hexadecimal digits denote, most significant first. -/
def hexNumber? (cs : List Char) : Option Nat :=
  cs.foldlM (fun n c => (hexValue? c).map (n * 16 + ·)) 0

-- ======================================================= curly brackets

/-- The opening bracket, `{`, as a text. -/
@[match_pattern] def openBrace : String := "\x7b"

/-- The closing bracket, `}`, as a text. -/
@[match_pattern] def closeBrace : String := "\x7d"

/-- A text between the two brackets. -/
def braced (inside : String) : String := openBrace ++ inside ++ closeBrace

end ApiContract.Text
