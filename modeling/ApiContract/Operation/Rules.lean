/-
The rules that an operation has to meet before code is written for it: an id
that is an identifier, parameter names with something beside the optional
mark, and statuses that differ. The first broken rule is the error. A status
that has not three characters only earns a warning.
-/
import ApiContract.Identifier
import ApiContract.Notice
import ApiContract.Operation.Basic

namespace ApiContract

/-- A broken rule. -/
inductive Violation where
  | badId (operationId : String)
  | emptyParameterName (operationId : String)
  | duplicateStatus (operationId status : String)
  deriving DecidableEq, Repr

/-- The text of a broken rule. -/
def Violation.message : Violation → String
  | badId id => "Invalid operation id '" ++ id
      ++ "': must be a non-empty identifier"
  | emptyParameterName id => "Validation error: Operation '" ++ id
      ++ "' has a parameter with an empty name"
  | duplicateStatus id status => "Operation '" ++ id
      ++ "' declares status code " ++ status ++ " more than once"

namespace Operation

/-- The id is an identifier. -/
def checkId (operationId : String) : Except Violation Unit :=
  if isIdentifier operationId then .ok () else .error (.badId operationId)

/-- No parameter name is empty once the optional mark is gone. -/
def checkParameters (op : Operation) : Except Violation Unit :=
  if op.parameters.any (·.propertyName.isEmpty) then
    .error (.emptyParameterName op.id)
  else .ok ()

/-- The warning that a response earns, if any. -/
def statusNotice? (operationId : String) (r : Response) : Option Notice :=
  if r.status.toList.length ≠ 3 then some (.oddStatus operationId r.status)
  else none

/-- No status stands twice, nor among those seen before. -/
def checkStatuses (operationId : String) (seen : List String) :
    List Response → Logged Violation Unit
  | [] => .ok ()
  | r :: rest =>
    if seen.contains r.status then
      .fail (.duplicateStatus operationId r.status)
    else
      .andThen ⟨(statusNotice? operationId r).toList, .ok ()⟩ fun _ =>
        checkStatuses operationId (r.status :: seen) rest

/-- The statuses of the responses differ. -/
def checkResponses (op : Operation) : Logged Violation Unit :=
  checkStatuses op.id [] op.responses

/-- All rules: id, parameters, responses, in this order. -/
def check (op : Operation) : Logged Violation Unit := do
  Logged.lift (checkId op.id)
  Logged.lift (checkParameters op)
  checkResponses op

end Operation

end ApiContract
