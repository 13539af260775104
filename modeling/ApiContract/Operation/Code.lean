/-
The code of one operation: its request type and, when decoders are wanted and
there is a block for it, the decoder block behind a blank line.
-/
import ApiContract.Operation.DecoderBlock
import ApiContract.Operation.RequestType
import ApiContract.Operation.Rules

namespace ApiContract.Operation

/-- The code of an operation that meets the rules. -/
def codeText (op : Operation) (decoders : Bool) : String :=
  if !decoders then op.requestTypeText
  else
    let block := decoderBlockText op.id op.responses
    if block.isEmpty then op.requestTypeText
    else op.requestTypeText ++ "\n\n" ++ block

/-- The code of an operation, once it has been checked. -/
def code (op : Operation) (decoders : Bool) : Logged Violation String := do
  op.check
  return op.codeText decoders

/-- One line on an operation: id, method, statuses, and whether it gets a
decoder block. -/
def summary (op : Operation) : String :=
  let decoder :=
    match op.success? with
    | some r => "decoder on " ++ r.status
    | none => "no decoder block"
  op.id ++ " " ++ op.method.capitals ++ " ["
    ++ ", ".intercalate (op.responses.map Response.status) ++ "] " ++ decoder

end ApiContract.Operation
