/-
The decoder block of an operation: four declarations in the generated code.

* a map from each status to the type of its payload,
* a type with two parameters per status, decoded and encoded, that maps each
  status to a runtime type,
* a function that makes the decoder, with types that its caller may replace,
* that function without an argument.

The first response that counts as a success is the one whose type a caller
replaces by passing a bare runtime type. Without such a response there is no
block.
-/
import ApiContract.Identifier
import ApiContract.Operation.Composition
import ApiContract.Operation.ResponseDecoder

namespace ApiContract

-- ========================================================= type pieces

namespace Response

/-- The type parameter for the decoded payload. -/
def decodedParameter (r : Response) : String := "A" ++ r.status

/-- The type parameter for the encoded payload. -/
def encodedParameter (r : Response) : String := "C" ++ r.status

/-- The two type parameters. -/
def parameterNames (r : Response) : List String :=
  [r.decodedParameter, r.encodedParameter]

/-- The two type parameters with the payload as their default. -/
def parametersWithDefaults (r : Response) : List String :=
  r.parameterNames.map fun name => name ++ " = " ++ r.payload

/-- The runtime type over the two parameters. -/
def runtimeType (r : Response) : String :=
  Text.withGenerics "t.Type" r.parameterNames

/-- The type of the decoded response. -/
def decodedType (r : Response) : String :=
  Text.withGenerics "r.IResponseType"
    [r.status, r.decodedParameter, Text.unionOfLiterals r.headers]

/-- The entry in the map of default types. -/
def defaultEntry (r : Response) : String :=
  "  " ++ r.status ++ ": " ++ (if r.isVoid then "t.undefined" else r.payload)

/-- The field in the type of all responses. -/
def typeField (r : Response) : String :=
  "  " ++ r.status ++ ": " ++ r.runtimeType ++ ";"

/-- The name that the decoder of the response is bound to. -/
def decoderName (r : Response) : String := "d" ++ r.status

end Response

-- =============================================================== block

/-- What a decoder block is made from: the names it declares, all responses
in order, and the one that counts as the success. -/
structure DecoderBlock where
  names : DecoderNames
  responses : List Response
  success : Response
  deriving DecidableEq, Repr

namespace DecoderBlock

/-- The variable of the generated function that holds the merged types. -/
def typeVariable : String := "type"

/-- The field that tells a bare runtime type from a map of types. -/
def markerField : String := "_A"

/-- The block of an operation; none without a success response. -/
def ofResponses? (operationId : String) (responses : List Response) :
    Option DecoderBlock :=
  (responses.find? Response.isSuccess).map fun success =>
    ⟨DecoderNames.ofId operationId, responses, success⟩

/-- A text with every further line moved in by two spaces. -/
def indent (s : String) : String :=
  String.ofList
    (s.toList.flatMap fun c => if c = '\n' then ['\n', ' ', ' '] else [c])

/-- The map of default types. -/
def defaultResponses (b : DecoderBlock) : String :=
  "export const " ++ b.names.defaultResponses ++ " = "
    ++ Text.braced ("\n"
      ++ ",\n".intercalate (b.responses.map Response.defaultEntry) ++ "\n")
    ++ ";"

/-- All type parameters with their defaults, in the order of the responses. -/
def parametersWithDefaults (b : DecoderBlock) : List String :=
  b.responses.flatMap Response.parametersWithDefaults

/-- All type parameters, in the order of the responses. -/
def parameterNames (b : DecoderBlock) : List String :=
  b.responses.flatMap Response.parameterNames

/-- The type of all responses. -/
def responsesType (b : DecoderBlock) : String :=
  "export type "
    ++ Text.withGenerics b.names.responsesType b.parametersWithDefaults
    ++ " = "
    ++ Text.braced ("\n"
      ++ "\n".intercalate (b.responses.map Response.typeField) ++ "\n")
    ++ ";"

/-- The type of all responses, applied to the type parameters in scope. -/
def appliedResponsesType (b : DecoderBlock) : String :=
  Text.withGenerics b.names.responsesType b.parameterNames

/-- The declaration that binds the decoder of one response. -/
def binding (r : Response) : String :=
  match r.strategy with
  | .basicError =>
    "  const " ++ r.decoderName ++ " = " ++ r.decoderText typeVariable ++ ";"
  | .selectedAtRunTime =>
    "  const " ++ r.decoderName ++ " = ("
      ++ indent (r.decoderText typeVariable) ++ ") as "
      ++ Text.withGenerics "r.ResponseDecoder" [r.decodedType] ++ ";"

/-- The composition of all bound decoders, in order. -/
def composition? (b : DecoderBlock) : Option Composition :=
  match b.responses.map Response.decoderName with
  | [] => none
  | first :: others => some (Composition.ofNames first others)

/-- The type of what the function returns: a decoder of any response. -/
def returnType (b : DecoderBlock) : String :=
  Text.withGenerics "r.ResponseDecoder"
    [" | ".intercalate (b.responses.map Response.decodedType)]

/-- The head of the function, up to its body. -/
def signature (b : DecoderBlock) : String :=
  "export function "
    ++ Text.withGenerics b.names.decoder b.parametersWithDefaults
    ++ "(\n  overrideTypes:\n    | Partial<" ++ b.appliedResponsesType
    ++ ">\n    | " ++ b.success.runtimeType
    ++ "\n    | undefined = " ++ Text.braced "" ++ "\n): " ++ b.returnType
    ++ " "

/-- The test that tells a bare runtime type from a map of types. -/
def overrideTest (b : DecoderBlock) : String :=
  "  const isDecoder = (d: any): d is " ++ b.success.runtimeType
    ++ " =>\n    typeof d[\"" ++ markerField ++ "\"] !== \"undefined\";\n\n"

/-- The map of the types in force: the defaults, then what the caller gave. -/
def mergedTypes (b : DecoderBlock) : String :=
  "  const " ++ typeVariable ++ " = "
    ++ Text.braced ("\n    ...((" ++ b.names.defaultResponses
      ++ " as unknown) as " ++ b.appliedResponsesType
      ++ "),\n    ...(isDecoder(overrideTypes) ? "
      ++ Text.braced (" " ++ b.success.status ++ ": overrideTypes ")
      ++ " : overrideTypes)\n  ")
    ++ ";\n\n"

/-- The bindings, one per response, in order. -/
def bindings (b : DecoderBlock) : String :=
  "\n".intercalate (b.responses.map binding)

/-- The last statement returns the composition. -/
def returned (b : DecoderBlock) : String :=
  match b.composition? with
  | none => ""
  | some c => "\n\n  return " ++ c.text ++ ";"

/-- The function that makes the decoder. -/
def decoderFunction (b : DecoderBlock) : String :=
  b.signature ++ Text.braced ("\n" ++ b.overrideTest ++ b.mergedTypes
    ++ b.bindings ++ b.returned ++ "\n")

/-- The function without an argument. -/
def defaultDecoder (b : DecoderBlock) : String :=
  "export const " ++ b.names.defaultDecoder ++ " = () => " ++ b.names.decoder
    ++ "();"

/-- The four declarations, with a blank line between them. -/
def text (b : DecoderBlock) : String :=
  "\n\n".intercalate
    [b.defaultResponses, b.responsesType, b.decoderFunction, b.defaultDecoder]

end DecoderBlock

/-- The text of the decoder block; empty when there is none. -/
def decoderBlockText (operationId : String) (responses : List Response) :
    String :=
  match DecoderBlock.ofResponses? operationId responses with
  | none => ""
  | some b => b.text

end ApiContract
