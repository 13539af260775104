/-
The request type of an operation: a comment with the id and, if there is one,
the path, and one type declaration that names the parameters, the request
headers and the responses.
-/
import ApiContract.Identifier
import ApiContract.Text.Literal
import ApiContract.Operation.Basic

namespace ApiContract

-- ========================================================== parameters

/-- The property for a parameter. The key of an optional one is a literal
always, that of another one only where it has to be. -/
def Parameter.property (p : Parameter) : String :=
  if p.isOptional then
    "readonly " ++ Text.literal p.propertyName ++ "?: " ++ p.typeText
  else if keyNeedsQuotes p.name then
    "readonly " ++ Text.literal p.name ++ ": " ++ p.typeText
  else "readonly " ++ p.name ++ ": " ++ p.typeText

/-- The object type with one property per parameter. -/
def parametersType (ps : List Parameter) : String :=
  if ps.isEmpty then Text.braced ""
  else
    Text.braced (" " ++ "; ".intercalate (ps.map Parameter.property) ++ " ")

-- =========================================================== responses

/-- The type of a response: status, payload, names of its headers. -/
def Response.typeText (r : Response) : String :=
  Text.withGenerics "r.IResponseType"
    [r.status, r.payload, Text.unionOfLiterals r.headers]

/-- The union of the types of the responses; `never` when there is none. -/
def responsesUnion (rs : List Response) : String :=
  if rs.isEmpty then "never" else " | ".intercalate (rs.map Response.typeText)

-- ========================================================= declaration

namespace Operation

/-- The request type: parameters, request headers, an unused place, and the
responses. -/
def requestType (op : Operation) : String :=
  Text.withGenerics ("r." ++ op.method.requestKind)
    [parametersType op.parameters, Text.unionOfLiterals op.headers, "never",
      responsesUnion op.responses]

/-- Method and path behind the id, when there is a path. -/
def headingPath (op : Operation) : String :=
  if op.path.isEmpty then ""
  else " (" ++ op.method.capitals ++ " " ++ op.path ++ ")"

/-- The comment over the declaration. -/
def heading (op : Operation) : String :=
  "/****************************************************************\n * "
    ++ op.id ++ op.headingPath ++ "\n */"

/-- Comment and declaration. -/
def requestTypeText (op : Operation) : String :=
  op.heading ++ "\n\n// Request type definition\nexport type "
    ++ requestTypeName op.id ++ " = " ++ op.requestType ++ ";"

end Operation

end ApiContract
