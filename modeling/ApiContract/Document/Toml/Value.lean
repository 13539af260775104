/-
The values that settings files hold. Beside what other documents hold there
are numbers without a decimal, infinities and no number at all, and moments
in time, of which only that they are moments is kept.
-/
import ApiContract.Document.Mismatch

namespace ApiContract.Toml

/-- A number that is not whole. -/
inductive Real where
  | finite (x : Number.Binary64)
  | infinite (negative : Bool)
  | notANumber
  deriving DecidableEq, Repr

/-- The text of a number. -/
def Real.text : Real → String
  | finite x => Number.settingsLayout.text x
  | infinite false => "inf"
  | infinite true => "-inf"
  | notANumber => "NaN"

/-- A value of a settings file. A table keeps its entries in their order. -/
inductive Value where
  | bool (b : Bool)
  | int (i : Int)
  | real (x : Real)
  | text (s : String)
  | moment
  | array (items : List Value)
  | table (entries : List (String × Value))
  deriving Repr, Inhabited

/-- The entries of a table. -/
abbrev Table := List (String × Value)

/-- What a message says was found in place of something else. -/
def Value.found : Value → Found
  | bool b => .boolean b
  | int i => .integer i
  | real x => .real x.text
  | text s => .text s
  | moment => .map
  | array _ => .sequence
  | table _ => .map

end ApiContract.Toml
