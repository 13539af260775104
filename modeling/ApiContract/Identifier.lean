/-
Identifiers of the generated code: ASCII letters, digits, `_` and `$`, no
digit first. An operation id must be one, as five declared names are made
from it; a property key that is none is written as a literal.
-/
import ApiContract.Text.CaseMap

namespace ApiContract

-- ========================================================= identifiers

/-- A character that may begin an identifier. -/
def isIdentifierStart (c : Char) : Bool := c.isAlpha || c == '_' || c == '$'

/-- A character that may stand behind the first. -/
def isIdentifierPart (c : Char) : Bool := c.isAlphanum || c == '_' || c == '$'

/-- The whole text matches `[A-Za-z_$][A-Za-z0-9_$]*`. -/
def isIdentifier (s : String) : Bool :=
  match s.toList with
  | [] => false
  | c :: cs => isIdentifierStart c && cs.all isIdentifierPart

/-- The property key has to be a literal: it is empty, its first character
cannot begin an identifier, or some character cannot be in one. -/
def keyNeedsQuotes (name : String) : Bool :=
  name.isEmpty
    || !((name.toList.head?.map isIdentifierStart).getD false)
    || !name.toList.all isIdentifierPart

-- ============================================= names for one operation

/-- The name of the request type of an operation. -/
def requestTypeName (operationId : String) : String :=
  Text.capitalize operationId ++ "T"

/-- The names that the decoder block of an operation declares. -/
structure DecoderNames where
  responsesType : String
  decoder : String
  defaultDecoder : String
  defaultResponses : String
  deriving DecidableEq, Repr

/-- Types take the id with a capital, values without one. -/
def DecoderNames.ofId (operationId : String) : DecoderNames :=
  let stem := Text.uncapitalize operationId
  { responsesType := Text.capitalize operationId ++ "ResponsesT"
    decoder := stem ++ "Decoder"
    defaultDecoder := stem ++ "DefaultDecoder"
    defaultResponses := stem ++ "DefaultResponses" }

end ApiContract
