/-
Reading settings files: lines with entries and headers, one after another.
Values may be arrays, over several lines, and tables within one line, up to
a limit of nesting that keys have as well.
-/
import ApiContract.Document.Toml.Text
import ApiContract.Document.Toml.Number
import ApiContract.Document.Toml.Table

namespace ApiContract.Toml

/-- What keys and values may be nested into is less than this. -/
def nestingLimit : Nat := 80

/-- A key that is not nested too deep. -/
def readKey? (cs : List Char) : Option (List String × List Char) := do
  let (key, rest) ← readKey (cs.length + 1) cs
  if key.length < nestingLimit then return (key, rest) else failure

/-- What stands here is this word. -/
def readWordOf? (word : String) (cs : List Char) : Option (List Char) :=
  if word.toList.isPrefixOf cs then some (cs.drop word.length) else none

mutual

/-- A value with a number of arrays and tables that may still open. -/
def readValue : Nat → Nat → List Char → Option (Value × List Char)
  | 0, _, _ => none
  | fuel + 1, depth, cs =>
    match cs with
    | [] => none
    | c :: rest =>
      if c = '"' || c = '\'' then
        (readString? cs).map fun r => (.text (String.ofList r.1), r.2)
      else if c = '[' || c = '{' then
        match depth with
        | 0 => none
        | depth + 1 =>
          if c = '[' then do
            let (items, rest) ← readArray fuel depth rest
            return (.array items, rest)
          else
            match skipGaps rest with
            | '}' :: rest => some (.table [], rest)
            | rest => do
              let (items, rest) ← readInline fuel depth [] rest
              return (.table (tableOf items), rest)
      else if c = 't' then (readWordOf? "true" cs).map (.bool true, ·)
      else if c = 'f' then (readWordOf? "false" cs).map (.bool false, ·)
      else readWord? cs

/-- The items of an array and its bracket; a comma may stand behind the last
one. -/
def readArray : Nat → Nat → List Char → Option (List Value × List Char)
  | 0, _, _ => none
  | fuel + 1, depth, cs => do
    let cs ← skipLines (cs.length + 1) cs
    if cs.head? = some ']' then return ([], cs.drop 1)
    let (v, rest) ← readValue fuel depth cs
    match ← skipLines (rest.length + 1) rest with
    | ']' :: rest => return ([v], rest)
    | ',' :: rest =>
      let (vs, rest) ← readArray fuel depth rest
      return (v :: vs, rest)
    | _ => failure

/-- The entries of a table within a line, added to those before, and its
brace. -/
def readInline : Nat → Nat → Items → List Char → Option (Items × List Char)
  | 0, _, _, _ => none
  | fuel + 1, depth, items, cs => do
    let (key, rest) ← readKey? cs
    if rest.head? ≠ some '=' then failure
    let (v, rest) ← readValue fuel depth (skipGaps (rest.drop 1))
    let items ← addEntry key v items
    match skipGaps rest with
    | '}' :: rest => return (items, rest)
    | ',' :: rest => readInline fuel depth items rest
    | _ => failure

end

-- =============================================================== lines

/-- The entries so far and the header that is in force. -/
structure Reading where
  items : Items := []
  header : List String := []

/-- A header line behind its first bracket. -/
def readHeader? (r : Reading) (cs : List Char) :
    Option (Reading × List Char) :=
  match cs with
  | '[' :: rest => do
    let (key, rest) ← readKey? rest
    let rest ← readWordOf? "]]" rest
    let items ← openTables key r.items
    return (⟨items, key⟩, ← readLineEnd? rest)
  | rest => do
    let (key, rest) ← readKey? rest
    let rest ← readWordOf? "]" rest
    let items ← openTable key r.items
    return (⟨items, key⟩, ← readLineEnd? rest)

/-- A line with an entry. -/
def readEntry? (r : Reading) (cs : List Char) :
    Option (Reading × List Char) := do
  let (key, rest) ← readKey? cs
  if rest.head? ≠ some '=' then failure
  let value := skipGaps (rest.drop 1)
  let (v, rest) ← readValue (2 * value.length + 2) (nestingLimit - 1) value
  let items ← addEntryUnder r.header key v r.items
  return (⟨items, r.header⟩, ← readLineEnd? rest)

/-- One line after another to the end of the text. -/
def readAll : Nat → Reading → List Char → Option Reading
  | 0, _, _ => none
  | fuel + 1, r, cs =>
    match skipGaps cs with
    | [] => some r
    | '[' :: rest => do
      let (r, rest) ← readHeader? r rest
      readAll fuel r rest
    | c :: rest =>
      if c = '#' || c = '\n' || c = '\r' then do
        readAll fuel r (← readLineEnd? (c :: rest))
      else do
        let (r, rest) ← readEntry? r (c :: rest)
        readAll fuel r rest

/-- Reads a whole text; none when it is not well formed. A byte order mark
may lead it. -/
def read? (s : String) : Option Table :=
  let cs := s.toList
  let cs := if cs.head? = some '\uFEFF' then cs.drop 1 else cs
  (readAll (cs.length + 1) {} cs).map fun r => tableOf r.items

end ApiContract.Toml
