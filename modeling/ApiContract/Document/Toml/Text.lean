/-
Blanks, comments, keys and strings of settings files. Each function takes the
text from a place on and yields what it read with the rest; `none` means that
what stands there is not well formed.
-/
import ApiContract.Text.Chars

namespace ApiContract.Toml

-- ============================================================== blanks

/-- A space or a tab. -/
def isGap (c : Char) : Bool := c = ' ' || c = '\t'

/-- A character that may stand in a line: no control character but the tab. -/
def isLineChar (c : Char) : Bool :=
  c = '\t' || (0x20 ≤ c.toNat && c.toNat ≠ 0x7F)

/-- The text behind spaces and tabs. -/
def skipGaps (cs : List Char) : List Char := cs.dropWhile isGap

/-- The text behind a line break, if one stands here. -/
def readBreak? : List Char → Option (List Char)
  | '\n' :: rest => some rest
  | '\r' :: '\n' :: rest => some rest
  | _ => none

/-- The text behind a comment, if one stands here. -/
def skipComment : List Char → List Char
  | '#' :: rest => rest.dropWhile isLineChar
  | cs => cs

/-- The rest of a line: blanks, perhaps a comment, and a break or the end. -/
def readLineEnd? (cs : List Char) : Option (List Char) :=
  match skipComment (skipGaps cs) with
  | [] => some []
  | rest => readBreak? rest

/-- Blanks, breaks and comments. A comment here ends with a break. -/
def skipLines : Nat → List Char → Option (List Char)
  | 0, cs => some cs
  | fuel + 1, cs =>
    match skipGaps cs with
    | '#' :: rest =>
      match readBreak? (skipComment ('#' :: rest)) with
      | some rest => skipLines fuel rest
      | none => none
    | rest =>
      match readBreak? rest with
      | some rest => skipLines fuel rest
      | none => some rest

-- ============================================================= escapes

/-- The character behind a backslash, if it is a short escape. -/
def shortEscape? : Char → Option Char
  | 'b' => some '\x08'
  | 't' => some '\t'
  | 'n' => some '\n'
  | 'f' => some '\x0c'
  | 'r' => some '\r'
  | '"' => some '"'
  | '\\' => some '\\'
  | _ => none

/-- The character that hexadecimal digits name. -/
def namedChar? (digits : List Char) : Option Char := do
  let n ← Text.hexNumber? digits
  if h : n.isValidChar then some ⟨n.toUInt32, by
    simpa [Nat.isValidChar, UInt32.isValidChar,
      Nat.mod_eq_of_lt (show n < 4294967296 by
        rcases h with h | h <;> omega)] using h⟩
  else none

/-- The escape behind a backslash: its character and its length. -/
def readEscape (cs : List Char) : Option (Char × Nat) :=
  match cs with
  | [] => none
  | c :: rest =>
    match shortEscape? c with
    | some e => some (e, 1)
    | none =>
      let size := if c = 'u' then 4 else if c = 'U' then 8 else 0
      let digits := rest.take size
      if size ≠ 0 ∧ digits.length = size then
        (namedChar? digits).map (·, size + 1)
      else none

-- ============================================================= strings

/-- A string on one line behind its opening quote. -/
def readLine (literal : Bool) :
    Nat → List Char → Option (List Char × List Char)
  | 0, _ => none
  | fuel + 1, cs =>
    match cs with
    | [] => none
    | c :: rest =>
      if c = (if literal then '\'' else '"') then some ([], rest)
      else if c = '\\' ∧ !literal then do
        let (e, n) ← readEscape rest
        let (text, rest) ← readLine literal fuel (rest.drop n)
        return (e :: text, rest)
      else if isLineChar c then do
        let (text, rest) ← readLine literal fuel rest
        return (c :: text, rest)
      else none

/-- The text behind blanks and breaks. -/
def skipBreaks : Nat → List Char → List Char
  | 0, cs => cs
  | fuel + 1, cs =>
    match readBreak? (skipGaps cs) with
    | some rest => skipBreaks fuel rest
    | none => skipGaps cs

/-- The text behind a break that a backslash takes away, with the blanks and
breaks that follow; none when no break comes. -/
def readJoint? (cs : List Char) : Option (List Char) :=
  (readBreak? (skipGaps cs)).map fun rest =>
    skipBreaks (rest.length + 1) rest

/-- A string over several lines behind its opening quotes. Up to two quotes
may stand before the three that close it, and each break is a line feed. -/
def readLines (literal : Bool) :
    Nat → List Char → Option (List Char × List Char)
  | 0, _ => none
  | fuel + 1, cs =>
    let quote := if literal then '\'' else '"'
    match cs with
    | [] => none
    | c :: rest =>
      if c = quote then
        let n := min 5 (cs.takeWhile (· = quote)).length
        if 3 ≤ n then some (List.replicate (n - 3) quote, cs.drop n)
        else do
          let (text, rest) ← readLines literal fuel rest
          return (c :: text, rest)
      else if c = '\\' ∧ !literal then
        match readJoint? rest with
        | some rest => readLines literal fuel rest
        | none => do
          let (e, n) ← readEscape rest
          let (text, rest) ← readLines literal fuel (rest.drop n)
          return (e :: text, rest)
      else
        match readBreak? cs with
        | some rest => do
          let (text, rest) ← readLines literal fuel rest
          return ('\n' :: text, rest)
        | none =>
          if isLineChar c then do
            let (text, rest) ← readLines literal fuel rest
            return (c :: text, rest)
          else none

/-- A string of any of the four forms. A break right behind three opening
quotes is no part of it. -/
def readString? (cs : List Char) : Option (List Char × List Char) :=
  let several (literal : Bool) (rest : List Char) :=
    let rest := (readBreak? rest).getD rest
    readLines literal (rest.length + 1) rest
  match cs with
  | '"' :: '"' :: '"' :: rest => several false rest
  | '\'' :: '\'' :: '\'' :: rest => several true rest
  | '"' :: rest => readLine false (rest.length + 1) rest
  | '\'' :: rest => readLine true (rest.length + 1) rest
  | _ => none

-- ================================================================ keys

/-- A character of bare keys. -/
def isKeyChar (c : Char) : Bool := c.isAlphanum || c = '_' || c = '-'

/-- One part of a key, bare or as a string on one line. -/
def readKeyPart (cs : List Char) : Option (String × List Char) :=
  match cs with
  | '"' :: rest =>
    (readLine false (rest.length + 1) rest).map fun r =>
      (String.ofList r.1, r.2)
  | '\'' :: rest =>
    (readLine true (rest.length + 1) rest).map fun r =>
      (String.ofList r.1, r.2)
  | cs =>
    let part := cs.takeWhile isKeyChar
    if part.isEmpty then none
    else some (String.ofList part, cs.drop part.length)

/-- A key: its parts, between points. -/
def readKey : Nat → List Char → Option (List String × List Char)
  | 0, _ => none
  | fuel + 1, cs => do
    let (part, rest) ← readKeyPart (skipGaps cs)
    match skipGaps rest with
    | '.' :: rest =>
      let (parts, rest) ← readKey fuel rest
      return (part :: parts, rest)
    | rest => return ([part], rest)

end ApiContract.Toml
