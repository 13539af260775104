/-
A text between double quotes as messages show it: everything that leaves no
mark is written as an escape, so two different texts never look alike.
-/
import ApiContract.Text.Chars
import ApiContract.Text.Visible.Table

namespace ApiContract.Text

/-- The character leaves no mark of its own. -/
def isHidden (c : Char) : Bool :=
  c.toNat < 0x20 || isIn hiddenRanges c

/-- One character as it stands between the quotes of a message. -/
def showChar (c : Char) : List Char :=
  match c with
  | '\x00' => ['\\', '0']
  | '\t' => ['\\', 't']
  | '\n' => ['\\', 'n']
  | '\r' => ['\\', 'r']
  | '"' => ['\\', '"']
  | '\\' => ['\\', '\\']
  | _ =>
    if isHidden c then
      ['\\', 'u', '{'] ++ Nat.toDigits 16 c.toNat ++ ['}']
    else [c]

/-- A text between double quotes, hidden characters escaped. -/
def quoteVisible (s : String) : String :=
  "\"" ++ String.ofList (s.toList.flatMap showChar) ++ "\""

end ApiContract.Text
