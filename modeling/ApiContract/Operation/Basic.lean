/-
What an API operation is: a method, an id, parameters and responses, and the
names that its generated code refers to. Methods and parameter locations have
a lower-case name each and are read from any spelling that lower-cases to it.
-/
import ApiContract.Text.CaseMap

namespace ApiContract

-- ============================================================== method

/-- The methods that have a kind of request in the generated code. -/
inductive Method where
  | get
  | post
  | put
  | delete
  deriving DecidableEq, Repr

namespace Method

/-- The name in lower case. -/
def name : Method → String
  | get => "get"
  | post => "post"
  | put => "put"
  | delete => "delete"

/-- The name in capitals. -/
def capitals (m : Method) : String := Text.upper m.name

/-- The type of the requests of this method. -/
def requestKind : Method → String
  | get => "IGetApiRequestType"
  | post => "IPostApiRequestType"
  | put => "IPutApiRequestType"
  | delete => "IDeleteApiRequestType"

/-- All methods. -/
def all : List Method := [get, post, put, delete]

/-- The method whose name the text is, once in lower case. -/
def ofText? (s : String) : Option Method :=
  all.find? fun m => m.name == Text.lower s

end Method

-- ============================================================ location

/-- Where a parameter travels in the request. -/
inductive Location where
  | query
  | header
  | path
  | body
  deriving DecidableEq, Repr

namespace Location

/-- The name in lower case. -/
def name : Location → String
  | query => "query"
  | header => "header"
  | path => "path"
  | body => "body"

/-- All locations. -/
def all : List Location := [query, header, path, body]

/-- The location whose name the text is, once in lower case. -/
def ofText? (s : String) : Option Location :=
  all.find? fun l => l.name == Text.lower s

end Location

-- =========================================================== parameter

/-- A parameter. A question mark anywhere in its name makes it optional. -/
structure Parameter where
  name : String
  typeText : String
  location : Location
  headerName : Option String
  deriving DecidableEq, Repr

namespace Parameter

/-- The name holds the mark of optional parameters. -/
def isOptional (p : Parameter) : Bool := p.name.toList.contains '?'

/-- The name without the mark. -/
def propertyName (p : Parameter) : String :=
  String.ofList (p.name.toList.filter (· != '?'))

end Parameter

-- ============================================================ response

/-- A response: its status, the text of its payload type, and the names of
the headers that come with it. -/
structure Response where
  status : String
  payload : String
  headers : List String
  deriving DecidableEq, Repr

namespace Response

/-- The payload type of a response without a body. -/
def voidPayload : String := "undefined"

/-- The payload type of the basic error body. -/
def errorPayload : String := "Error"

/-- A status of exactly three characters, the first of them a `2`. -/
def isSuccess (r : Response) : Bool :=
  r.status.toList.length == 3 && r.status.toList.head? == some '2'

/-- The response has no body. -/
def isVoid (r : Response) : Bool := r.payload == voidPayload

/-- The response has the basic error body. -/
def isBasicError (r : Response) : Bool := r.payload == errorPayload

end Response

-- =========================================================== operation

/-- An API operation. -/
structure Operation where
  method : Method
  id : String
  parameters : List Parameter := []
  responses : List Response := []
  headers : List String := []
  importedTypes : List String := []
  path : String := ""
  consumes : Option String := none
  produces : Option String := none
  deriving DecidableEq, Repr

namespace Operation

/-- The first response that counts as a success. -/
def success? (op : Operation) : Option Response :=
  op.responses.find? Response.isSuccess

/-- The operation with one more response, behind the others. -/
def addResponse (op : Operation) (r : Response) : Operation :=
  { op with responses := op.responses ++ [r] }

/-- The operation with one more parameter, behind the others. -/
def addParameter (op : Operation) (name typeText : String)
    (location : Location) : Operation :=
  { op with
    parameters := op.parameters ++ [⟨name, typeText, location, none⟩] }

/-- The operation with one more name to import, behind the others. -/
def addImportedType (op : Operation) (name : String) : Operation :=
  { op with importedTypes := op.importedTypes ++ [name] }

end Operation

end ApiContract
