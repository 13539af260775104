/-
What stands where in a document and does not belong there. A mismatch keeps
its cause; `message` is the one place that puts it into words.
-/
import ApiContract.Text.Visible
import ApiContract.Document.Value

namespace ApiContract

/-- What was found, as far as a message tells. A number keeps its text, which
the format of the document decides. -/
inductive Found where
  | null
  | boolean (b : Bool)
  | integer (i : Int)
  | real (text : String)
  | text (s : String)
  | sequence
  | map
  deriving DecidableEq, Repr

/-- What was found, in words. -/
def Found.words : Found → String
  | null => "null"
  | boolean b => "boolean `" ++ (if b then "true" else "false") ++ "`"
  | integer i => "integer `" ++ toString i ++ "`"
  | real s => "floating point `" ++ s ++ "`"
  | text s => "string " ++ Text.quoteVisible s
  | sequence => "sequence"
  | map => "map"

/-- What a message says was found in place of something else. -/
def Value.found : Value → Found
  | .null => .null
  | .bool b => .boolean b
  | .int i => .integer i
  | .real x => .real (Number.documentLayout.text x)
  | .text s => .text s
  | .list _ => .sequence
  | .object _ => .map

/-- A value that cannot be read as what it should be. Records are named in
the messages, so the cause carries the name and, for a list that is too
short, the number of fields. -/
inductive Mismatch where
  | wrongType (found : Found) (wanted : String)
  | missingField (name : String)
  | tooShort (length : Nat) (record : String) (size : Nat)
  | tooLong (length : Nat)
  | badMethod (text : String)
  | badLocation (text : String)
  | badStatus
  deriving DecidableEq, Repr

/-- A mismatch in words. -/
def Mismatch.message : Mismatch → String
  | wrongType found wanted =>
    "invalid type: " ++ found.words ++ ", expected " ++ wanted
  | missingField name => "missing field `" ++ name ++ "`"
  | tooShort length record size =>
    "invalid length " ++ toString length ++ ", expected " ++ record ++ " with "
      ++ toString size ++ " elements"
  | tooLong length =>
    "invalid length " ++ toString length
      ++ ", expected fewer elements in array"
  | badMethod text => "Invalid HTTP method: " ++ text
  | badLocation text => "Invalid parameter location: " ++ text
  | badStatus =>
    "data did not match any variant of untagged enum StatusCode"

end ApiContract
