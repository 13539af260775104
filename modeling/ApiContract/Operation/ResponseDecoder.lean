/-
The decoder of one response, as an expression of the generated code. A basic
error has a decoder of its own. For any other response the type that is bound
to its status can be replaced when the decoder is made, so the choice between
"no body" and "a body of this type" is left to the generated code.
-/
import ApiContract.Text.Literal
import ApiContract.Operation.Basic

namespace ApiContract

/-- How a response is decoded. -/
inductive DecoderStrategy where
  | basicError
  | selectedAtRunTime
  deriving DecidableEq, Repr

namespace Response

/-- The strategy follows the payload alone. -/
def strategy (r : Response) : DecoderStrategy :=
  if r.isBasicError then .basicError else .selectedAtRunTime

/-- The expression that reads the type bound to the status from a map. -/
def typeLookup (r : Response) (types : String) : String :=
  types ++ "[\"" ++ r.status ++ "\"]"

/-- The call that makes the decoder for a response without a body. -/
def constantDecoder (r : Response) : String :=
  Text.withGenerics "r.constantResponseDecoder"
    ["undefined", r.status, Text.unionOfLiterals r.headers]
    ++ "(" ++ r.status ++ ", undefined)"

/-- The call that makes the decoder for a body of the bound type. -/
def bodyDecoder (r : Response) (types : String) : String :=
  let bound := r.typeLookup types
  Text.withGenerics "r.ioResponseDecoder"
    [r.status, "(typeof " ++ bound ++ ")[\"_A\"]",
      "(typeof " ++ bound ++ ")[\"_O\"]", Text.unionOfLiterals r.headers]
    ++ "(" ++ r.status ++ ", " ++ bound ++ ")"

/-- The decoder expression; types are read from the given map. -/
def decoderText (r : Response) (types : String) : String :=
  match r.strategy with
  | .basicError =>
    Text.withGenerics "r.basicErrorResponseDecoder" [r.status]
      ++ "(" ++ r.status ++ ")"
  | .selectedAtRunTime =>
    r.typeLookup types ++ ".name === \"undefined\"\n    ? "
      ++ r.constantDecoder ++ "\n    : " ++ r.bodyDecoder types

end Response

end ApiContract
