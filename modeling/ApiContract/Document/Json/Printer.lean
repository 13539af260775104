/-
JSON text without white space. Strings escape the quote, the backslash and
the control characters below U+0020, and nothing else.
-/
import ApiContract.Text.Chars
import ApiContract.Document.Value

namespace ApiContract.Json

/-- One character inside a string. -/
def escapeChar (c : Char) : List Char :=
  match c with
  | '"' => ['\\', '"']
  | '\\' => ['\\', '\\']
  | '\x08' => ['\\', 'b']
  | '\x0c' => ['\\', 'f']
  | '\n' => ['\\', 'n']
  | '\r' => ['\\', 'r']
  | '\t' => ['\\', 't']
  | _ =>
    if c.toNat < 0x20 then
      ['\\', 'u', '0', '0', Text.hexDigit (c.toNat / 16),
        Text.hexDigit (c.toNat % 16)]
    else [c]

/-- A text as a string. -/
def quote (s : String) : String :=
  "\"" ++ String.ofList (s.toList.flatMap escapeChar) ++ "\""

mutual

/-- The text of a value. -/
def print : Value → String
  | .null => "null"
  | .bool b => if b then "true" else "false"
  | .int i => toString i
  | .real x => Number.documentLayout.text x
  | .text s => quote s
  | .list items => "[" ++ ",".intercalate (printItems items) ++ "]"
  | .object fields => Text.braced (",".intercalate (printFields fields))

/-- The texts of the items of a list. -/
def printItems : List Value → List String
  | [] => []
  | v :: vs => print v :: printItems vs

/-- The texts of the fields of an object. -/
def printFields : List (String × Value) → List String
  | [] => []
  | (k, v) :: fs => (quote k ++ ":" ++ print v) :: printFields fs

end

end ApiContract.Json
