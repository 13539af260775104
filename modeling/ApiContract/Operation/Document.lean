/-
Operations in documents. A record stands in a document as an object or as the
list of its fields in their declared order. Of an object the fields are read
in the order of their names, and the first that cannot be read is the error;
required fields that are missing are reported after that, in declared order.
Fields with a default may be left out of an object, and off the end of a
list. Unknown fields are passed over, and of two fields of one name the last
one counts.

`toValue` writes a record as an object with its fields in declared order.
-/
import ApiContract.Document.Json.Printer
import ApiContract.Document.Mismatch
import ApiContract.Number.Numeral
import ApiContract.Operation.Basic

namespace ApiContract

-- ====================================================== parts of records

/-- Reading a value as something. -/
abbrev Reader (α : Type) := Value → Except Mismatch α

namespace Reader

variable {α : Type}

/-- A text. -/
def text : Reader String
  | .text s => .ok s
  | v => .error (.wrongType v.found "a string")

/-- What a text is the name of; the error keeps a text that names nothing. -/
def byName (ofText? : String → Option α) (refusal : String → Mismatch) :
    Reader α := fun v => do
  let s ← text v
  match ofText? s with
  | some a => return a
  | none => throw (refusal s)

/-- Something, or nothing for `null`. -/
def orNull (read : Reader α) : Reader (Option α)
  | .null => .ok none
  | v => (read v).map some

/-- The items of a list, in order; the first that cannot be read is the
error. -/
def items (read : Reader α) : List Value → Except Mismatch (List α)
  | [] => .ok []
  | v :: vs => do
    let a ← read v
    let rest ← items read vs
    return a :: rest

/-- A list. -/
def list (read : Reader α) : Reader (List α)
  | .list vs => items read vs
  | v => .error (.wrongType v.found "a sequence")

/-- A record, as an object or as the list of its fields. -/
def record (name : String)
    (ofFields : List (String × Value) → Except Mismatch α)
    (ofItems : List Value → Except Mismatch α) : Reader α
  | .object fields => ofFields fields
  | .list items => ofItems items
  | v => .error (.wrongType v.found name)

/-- A field of an object, if it is there. -/
def field? (fields : List (String × Value)) (name : String)
    (read : Reader α) : Except Mismatch (Option α) :=
  match Value.field? name fields with
  | none => .ok none
  | some v => (read v).map some

/-- A field that has to be there. -/
def require (name : String) : Option α → Except Mismatch α
  | none => .error (.missingField name)
  | some a => .ok a

/-- The next item of a list that stands for a record, if there is one, and
the items behind it. -/
def next? (read : Reader α) :
    List Value → Except Mismatch (Option α × List Value)
  | [] => .ok (none, [])
  | v :: vs => (read v).map fun a => (some a, vs)

end Reader

-- ============================================================ parameter

/-- A method, by its name. -/
def Method.read : Reader Method := .byName Method.ofText? .badMethod

/-- A location, by its name. -/
def Location.read : Reader Location := .byName Location.ofText? .badLocation

namespace Parameter

/-- The record in messages. -/
def recordName : String := "struct ParameterInfo"

/-- A parameter from the fields of an object. -/
def ofFields (fields : List (String × Value)) :
    Except Mismatch Parameter := do
  let headerName ← Reader.field? fields "headerName" (.orNull Reader.text)
  let location ← Reader.field? fields "in" Location.read
  let name ← Reader.field? fields "name" Reader.text
  let typeText ← Reader.field? fields "type" Reader.text
  let name ← Reader.require "name" name
  let typeText ← Reader.require "type" typeText
  let location ← Reader.require "in" location
  return ⟨name, typeText, location, headerName.join⟩

/-- A parameter from the list of its fields. -/
def ofItems (items : List Value) : Except Mismatch Parameter := do
  let short := Mismatch.tooShort items.length recordName 4
  let (name, rest) ← Reader.next? Reader.text items
  let some name := name | throw short
  let (typeText, rest) ← Reader.next? Reader.text rest
  let some typeText := typeText | throw short
  let (location, rest) ← Reader.next? Location.read rest
  let some location := location | throw short
  let (headerName, rest) ← Reader.next? (.orNull Reader.text) rest
  if rest.isEmpty then return ⟨name, typeText, location, headerName.join⟩
  else throw (.tooLong items.length)

/-- A parameter, written either way. -/
def read : Reader Parameter := .record recordName ofFields ofItems

/-- A parameter as an object; no header name, no field for it. -/
def toValue (p : Parameter) : Value :=
  .object ([("name", .text p.name), ("type", .text p.typeText),
    ("in", .text p.location.name)]
    ++ (p.headerName.map fun h => ("headerName", Value.text h)).toList)

end Parameter

-- ============================================================= response

namespace Response

/-- The record in messages. -/
def recordName : String := "struct ResponseSpec"

/-- A status: a text, or a whole number below 2^64 for its decimal text. -/
def readStatus : Reader String
  | .text s => .ok s
  | .int i =>
    if Number.fitsUnsigned 64 i then .ok (Number.digits i.toNat)
    else .error .badStatus
  | _ => .error .badStatus

/-- A response from the fields of an object. -/
def ofFields (fields : List (String × Value)) :
    Except Mismatch Response := do
  let headers ← Reader.field? fields "headerNames" (.list Reader.text)
  let payload ← Reader.field? fields "payloadType" Reader.text
  let status ← Reader.field? fields "statusCode" readStatus
  let status ← Reader.require "statusCode" status
  let payload ← Reader.require "payloadType" payload
  return ⟨status, payload, headers.getD []⟩

/-- A response from the list of its fields. -/
def ofItems (items : List Value) : Except Mismatch Response := do
  let short := Mismatch.tooShort items.length recordName 3
  let (status, rest) ← Reader.next? readStatus items
  let some status := status | throw short
  let (payload, rest) ← Reader.next? Reader.text rest
  let some payload := payload | throw short
  let (headers, rest) ← Reader.next? (.list Reader.text) rest
  if rest.isEmpty then return ⟨status, payload, headers.getD []⟩
  else throw (.tooLong items.length)

/-- A response, written either way. -/
def read : Reader Response := .record recordName ofFields ofItems

/-- A response as an object. -/
def toValue (r : Response) : Value :=
  .object [("statusCode", .text r.status), ("payloadType", .text r.payload),
    ("headerNames", .list (r.headers.map .text))]

end Response

-- ============================================================ operation

namespace Operation

/-- The record in messages. -/
def recordName : String := "struct OperationInfo"

/-- An operation from the fields of an object. -/
def ofFields (fields : List (String × Value)) :
    Except Mismatch Operation := do
  let consumes ← Reader.field? fields "consumes" (.orNull Reader.text)
  let headers ← Reader.field? fields "headers" (.list Reader.text)
  let importedTypes ←
    Reader.field? fields "importedTypes" (.list Reader.text)
  let method ← Reader.field? fields "method" Method.read
  let id ← Reader.field? fields "operationId" Reader.text
  let parameters ← Reader.field? fields "parameters" (.list Parameter.read)
  let path ← Reader.field? fields "path" Reader.text
  let produces ← Reader.field? fields "produces" (.orNull Reader.text)
  let responses ← Reader.field? fields "responses" (.list Response.read)
  let method ← Reader.require "method" method
  let id ← Reader.require "operationId" id
  return {
    method, id
    parameters := parameters.getD []
    responses := responses.getD []
    headers := headers.getD []
    importedTypes := importedTypes.getD []
    path := path.getD ""
    consumes := consumes.join
    produces := produces.join }

/-- An operation from the list of its fields. -/
def ofItems (items : List Value) : Except Mismatch Operation := do
  let short := Mismatch.tooShort items.length recordName 9
  let (method, rest) ← Reader.next? Method.read items
  let some method := method | throw short
  let (id, rest) ← Reader.next? Reader.text rest
  let some id := id | throw short
  let (parameters, rest) ← Reader.next? (.list Parameter.read) rest
  let (responses, rest) ← Reader.next? (.list Response.read) rest
  let (headers, rest) ← Reader.next? (.list Reader.text) rest
  let (importedTypes, rest) ← Reader.next? (.list Reader.text) rest
  let (path, rest) ← Reader.next? Reader.text rest
  let (consumes, rest) ← Reader.next? (.orNull Reader.text) rest
  let (produces, rest) ← Reader.next? (.orNull Reader.text) rest
  if rest.isEmpty then
    return {
      method, id
      parameters := parameters.getD []
      responses := responses.getD []
      headers := headers.getD []
      importedTypes := importedTypes.getD []
      path := path.getD ""
      consumes := consumes.join
      produces := produces.join }
  else throw (.tooLong items.length)

/-- An operation, written either way. -/
def read : Reader Operation := .record recordName ofFields ofItems

/-- An operation as an object; media types that are not given have no
field. -/
def toValue (op : Operation) : Value :=
  .object ([("method", .text op.method.name), ("operationId", .text op.id),
    ("parameters", .list (op.parameters.map Parameter.toValue)),
    ("responses", .list (op.responses.map Response.toValue)),
    ("headers", .list (op.headers.map .text)),
    ("importedTypes", .list (op.importedTypes.map .text)),
    ("path", .text op.path)]
    ++ (op.consumes.map fun s => ("consumes", Value.text s)).toList
    ++ (op.produces.map fun s => ("produces", Value.text s)).toList)

end Operation

-- ============================================================ documents

/-- Why a value is no operations document. -/
inductive DocumentError where
  | noOperations
  | notADocument (v : Value)
  | mismatch (m : Mismatch)
  deriving Repr

/-- The reason in words. -/
def DocumentError.message : DocumentError → String
  | noOperations => "Invalid operations document: missing `operations` key"
  | notADocument v =>
    "Invalid operations document: expected a list or an object, found "
      ++ Json.print v
  | mismatch m => "Invalid operations document: " ++ m.message

namespace Operations

/-- The entries of a list; `null` is an absent operation. -/
def readEntries (v : Value) :
    Except DocumentError (List (Option Operation)) :=
  (Reader.list (.orNull Operation.read) v).mapError .mismatch

/-- An operations document: the list itself, or an object that holds it under
`operations`. -/
def ofValue : Value → Except DocumentError (List (Option Operation))
  | .list items => readEntries (.list items)
  | .object fields =>
    match Value.field? "operations" fields with
    | none => .error .noOperations
    | some v => readEntries v
  | v => .error (.notADocument v)

/-- A list of entries as a document. -/
def toValue (entries : List (Option Operation)) : Value :=
  .list (entries.map fun
    | none => .null
    | some op => op.toValue)

end Operations

end ApiContract
