/-
String literals between double quotes, and the types that are made of them.
`escape` writes the inside of a literal so that it holds no quote, no line
break and no other control character; `readEscaped` is the way back: it reads
up to the closing quote and returns what was written. A list of texts becomes
a union of literals, and the empty list the type `never`, which has no value.
A type takes its arguments between angle brackets.
-/
import ApiContract.Text.Chars

namespace ApiContract.Text

-- ================================================== writing a literal

/-- The control characters (category Cc): all of them lie below U+00A0. -/
def isControl (c : Char) : Bool :=
  c.toNat < 0x20 || (0x7F ≤ c.toNat && c.toNat < 0xA0)

/-- Four hexadecimal digits, enough below 2^16. -/
def hexFour (n : Nat) : List Char :=
  [hexDigit (n / 0x1000 % 16), hexDigit (n / 0x100 % 16),
    hexDigit (n / 0x10 % 16), hexDigit (n % 16)]

/-- One character as it stands inside a literal. -/
def escapeChar (c : Char) : List Char :=
  if c = '\\' then ['\\', '\\']
  else if c = '"' then ['\\', '"']
  else if c = '\n' then ['\\', 'n']
  else if c = '\r' then ['\\', 'r']
  else if c = '\t' then ['\\', 't']
  else if isControl c then '\\' :: 'u' :: hexFour c.toNat
  else [c]

/-- The inside of the literal that stands for a text. -/
def escape (s : String) : String := String.ofList (s.toList.flatMap escapeChar)

/-- The literal that stands for a text. -/
def literal (s : String) : String := "\"" ++ escape s ++ "\""

/-- The union of the literals, in order and with repetitions; `never` when
there is none. -/
def unionOfLiterals (names : List String) : String :=
  if names.isEmpty then "never" else " | ".intercalate (names.map literal)

/-- `base<a, b>`; the bare name when there are no arguments. -/
def withGenerics (base : String) (arguments : List String) : String :=
  if arguments.isEmpty then base
  else base ++ "<" ++ ", ".intercalate arguments ++ ">"

-- ================================================== reading a literal

/-- Reads the inside of a literal up to its closing quote: the text that was
written and what follows the quote. Control characters as such are refused,
and so is an escape that `escapeChar` does not write. -/
def readEscaped : List Char → Option (List Char × List Char)
  | [] => none
  | '"' :: rest => some ([], rest)
  | '\\' :: 'u' :: a :: b :: c :: d :: rest => do
    let n ← hexNumber? [a, b, c, d]
    let (s, tail) ← readEscaped rest
    return (Char.ofNat n :: s, tail)
  | '\\' :: e :: rest => do
    let c ← match e with
      | '\\' => some '\\'
      | '"' => some '"'
      | 'n' => some '\n'
      | 'r' => some '\r'
      | 't' => some '\t'
      | _ => none
    let (s, tail) ← readEscaped rest
    return (c :: s, tail)
  | c :: rest =>
    if isControl c || c = '\\' then none
    else do
      let (s, tail) ← readEscaped rest
      return (c :: s, tail)

/-- Reads a literal, opening quote included. -/
def readLiteral : List Char → Option (List Char × List Char)
  | '"' :: rest => readEscaped rest
  | _ => none

end ApiContract.Text
