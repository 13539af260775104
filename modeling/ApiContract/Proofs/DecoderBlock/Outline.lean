/-
The outline of a decoder block: its declarations as data, with one slot for
every place where the generated text repeats a name, a status or a list of
type parameters. The printers here know nothing of responses; they say what
a declaration with given slots looks like. A block has an outline
(`DecoderBlock.outline`), and its text is the printed outline
(`text_eq_outline`), so that what the declarations have in common can be
read off lists instead of texts.

One slot needs an argument. A binding is printed by moving the decoder
expression in, line by line, and the outline prints it where it belongs.
The two agree because the expression breaks its line in two places only:
literals hold no line break, and statuses are assumed to hold none.
-/
import ApiContract.Operation.DecoderBlock
import ApiContract.Proofs.Text.Chars

namespace ApiContract

open Text

-- ============================================================== outlines

namespace Outline

/-- A type applied to arguments. -/
structure TypeUse where
  name : String
  arguments : List String
  deriving DecidableEq, Repr

/-- A type application. -/
def TypeUse.text (t : TypeUse) : String := withGenerics t.name t.arguments

/-- The type of the runtime types of one status. -/
def runtimeType (status : String) : TypeUse :=
  ⟨"t.Type", ["A" ++ status, "C" ++ status]⟩

/-- What the name of a response decoder is bound to: the decoder of basic
errors, or the choice between no body and a body of the bound type, with the
header names as a union and the type that the choice is given. -/
inductive Bound where
  | basicError (status : String)
  | choice (status headers : String) (type : TypeUse)
  deriving DecidableEq, Repr

/-- The expression that reads the type bound to a status. -/
def lookup (status : String) : String := "type[\"" ++ status ++ "\"]"

/-- The decoder of basic errors, as it stands behind a name. -/
def basicErrorText (status : String) : String :=
  " = " ++ withGenerics "r.basicErrorResponseDecoder" [status]
    ++ "(" ++ status ++ ")"

/-- The choice, as it stands behind a name: in parentheses and on three
lines, which are the test, the decoder without a body, the decoder with one. -/
def choiceText (status headers : String) (type : TypeUse) : String :=
  " = (" ++ lookup status ++ ".name === \"undefined\"\n      ? "
    ++ withGenerics "r.constantResponseDecoder" ["undefined", status, headers]
    ++ "(" ++ status ++ ", undefined)" ++ "\n      : "
    ++ withGenerics "r.ioResponseDecoder"
      [status, "(typeof " ++ lookup status ++ ")[\"_A\"]",
        "(typeof " ++ lookup status ++ ")[\"_O\"]", headers]
    ++ "(" ++ status ++ ", " ++ lookup status ++ ")" ++ ") as "
    ++ withGenerics "r.ResponseDecoder" [type.text]

/-- What stands behind the name in a binding. -/
def Bound.text : Bound → String
  | basicError status => basicErrorText status
  | choice status headers type => choiceText status headers type

end Outline

/-- The declarations of a decoder block. Type parameters stand with their
defaults, entries and bindings with what they are set to. -/
structure Outline where
  /-- The map of default types and its entries. -/
  defaultsName : String
  entries : List (String × String)
  /-- The type of all responses, its parameters and fields. -/
  typeName : String
  parameters : List (String × String)
  fields : List (String × Outline.TypeUse)
  /-- The function, its parameters and the types of its argument. -/
  functionName : String
  functionParameters : List (String × String)
  partialMap : Outline.TypeUse
  bareStatus : String
  /-- The members of the union that the function's decoder yields. -/
  members : List Outline.TypeUse
  /-- The test for a bare type, and the map that merges the types. -/
  testedStatus : String
  spreadName : String
  castMap : Outline.TypeUse
  overrideStatus : String
  /-- The bound decoders and what is returned. -/
  bindings : List (String × Outline.Bound)
  returned : Option Composition
  /-- The function without an argument, and what it calls. -/
  wrapperName : String
  calledName : String
  deriving DecidableEq, Repr

namespace Outline

/-- A declared name with its parameters and their defaults. -/
def declared (name : String) (parameters : List (String × String)) : String :=
  withGenerics name (parameters.map fun p => p.1 ++ " = " ++ p.2)

/-- The map of default types. -/
def defaultsText (o : Outline) : String :=
  "export const " ++ o.defaultsName ++ " = "
    ++ braced ("\n"
      ++ ",\n".intercalate (o.entries.map fun e => "  " ++ e.1 ++ ": " ++ e.2)
      ++ "\n")
    ++ ";"

/-- The type of all responses. -/
def typeText (o : Outline) : String :=
  "export type " ++ declared o.typeName o.parameters ++ " = "
    ++ braced ("\n"
      ++ "\n".intercalate
        (o.fields.map fun f => "  " ++ f.1 ++ ": " ++ f.2.text ++ ";")
      ++ "\n")
    ++ ";"

/-- The head of the function, up to its body. -/
def headText (o : Outline) : String :=
  "export function " ++ declared o.functionName o.functionParameters
    ++ "(\n  overrideTypes:\n    | Partial<" ++ o.partialMap.text
    ++ ">\n    | " ++ (runtimeType o.bareStatus).text
    ++ "\n    | undefined = " ++ braced "" ++ "\n): "
    ++ withGenerics "r.ResponseDecoder"
      [" | ".intercalate (o.members.map TypeUse.text)]
    ++ " "

/-- The test for a bare type. -/
def testText (o : Outline) : String :=
  "  const isDecoder = (d: any): d is " ++ (runtimeType o.testedStatus).text
    ++ " =>\n    typeof d[\"_A\"] !== \"undefined\";\n\n"

/-- The map that merges the types. -/
def mergeText (o : Outline) : String :=
  "  const type = "
    ++ braced ("\n    ...((" ++ o.spreadName ++ " as unknown) as "
      ++ o.castMap.text ++ "),\n    ...(isDecoder(overrideTypes) ? "
      ++ braced (" " ++ o.overrideStatus ++ ": overrideTypes ")
      ++ " : overrideTypes)\n  ")
    ++ ";\n\n"

/-- The bindings, one line or three each. -/
def bindingsText (o : Outline) : String :=
  "\n".intercalate
    (o.bindings.map fun b => "  const " ++ b.1 ++ b.2.text ++ ";")

/-- The last statement. -/
def returnText (o : Outline) : String :=
  match o.returned with
  | none => ""
  | some c => "\n\n  return " ++ c.text ++ ";"

/-- The function that makes the decoder. -/
def functionText (o : Outline) : String :=
  o.headText ++ braced ("\n" ++ o.testText ++ o.mergeText ++ o.bindingsText
    ++ o.returnText ++ "\n")

/-- The function without an argument. -/
def wrapperText (o : Outline) : String :=
  "export const " ++ o.wrapperName ++ " = () => " ++ o.calledName ++ "();"

/-- The four declarations, with a blank line between them. -/
def text (o : Outline) : String :=
  o.defaultsText ++ "\n\n" ++ o.typeText ++ "\n\n" ++ o.functionText ++ "\n\n"
    ++ o.wrapperText

end Outline

-- ================================================== the outline of a block

namespace Response

/-- The decoded type of a response. -/
def decodedUse (r : Response) : Outline.TypeUse :=
  ⟨"r.IResponseType", [r.status, "A" ++ r.status, unionOfLiterals r.headers]⟩

/-- What the decoder name of a response is bound to. -/
def bound (r : Response) : Outline.Bound :=
  if r.isBasicError then .basicError r.status
  else .choice r.status (unionOfLiterals r.headers) r.decodedUse

/-- The two type parameters of a response with their defaults. -/
def typeParameters (r : Response) : List (String × String) :=
  [("A" ++ r.status, r.payload), ("C" ++ r.status, r.payload)]

end Response

namespace DecoderBlock

/-- The outline of a block. -/
def outline (b : DecoderBlock) : Outline where
  defaultsName := b.names.defaultResponses
  entries := b.responses.map fun r =>
    (r.status, if r.isVoid then "t.undefined" else r.payload)
  typeName := b.names.responsesType
  parameters := b.responses.flatMap Response.typeParameters
  fields := b.responses.map fun r => (r.status, Outline.runtimeType r.status)
  functionName := b.names.decoder
  functionParameters := b.responses.flatMap Response.typeParameters
  partialMap := ⟨b.names.responsesType, b.parameterNames⟩
  bareStatus := b.success.status
  members := b.responses.map Response.decodedUse
  testedStatus := b.success.status
  spreadName := b.names.defaultResponses
  castMap := ⟨b.names.responsesType, b.parameterNames⟩
  overrideStatus := b.success.status
  bindings := b.responses.map fun r => (r.decoderName, r.bound)
  returned := b.composition?
  wrapperName := b.names.defaultDecoder
  calledName := b.names.decoder

-- ======================================================== composed names

/-- The names of a composition are those it was made of, in order. -/
theorem names_ofNames (first : String) (others : List String) :
    (Composition.ofNames first others).names = first :: others := by
  have key : ∀ (names : List String) (c : Composition),
      (names.foldl (fun c name => .compose c (.decoder name)) c).names
        = c.names ++ names := by
    intro names
    induction names with
    | nil =>
        intro c
        rw [List.append_nil]
        rfl
    | cons name rest ih =>
        intro c
        rw [List.foldl_cons, ih, Composition.names, List.append_assoc]
        rfl
  exact key others (.decoder first)

/-- A block with a response composes the names of its decoders, from the
first on. -/
theorem composition?_of_ne_nil {b : DecoderBlock} (h : b.responses ≠ []) :
    ∃ first others, b.composition? = some (Composition.ofNames first others)
      ∧ first :: others = b.responses.map Response.decoderName := by
  unfold composition?
  cases hnames : b.responses.map Response.decoderName with
  | nil => exact absurd (List.map_eq_nil_iff.1 hnames) h
  | cons first others => exact ⟨first, others, rfl, rfl⟩

/-- A block composes the names of all its decoders, in order. -/
theorem names_of_composition? {b : DecoderBlock} {c : Composition}
    (h : b.composition? = some c) :
    c.names = b.responses.map Response.decoderName := by
  unfold composition? at h
  split at h
  case h_1 => cases h
  case h_2 first others hnames =>
    cases h
    rw [names_ofNames, hnames]

-- ======================================================== moving lines in

theorem indent_append (s t : String) :
    indent (s ++ t) = indent s ++ indent t := by
  unfold indent
  rw [String.toList_append, List.flatMap_append, String.ofList_append]

/-- A text of one line is left as it is. -/
theorem indent_of_one_line {s : String} (h : AllChars (· ≠ '\n') s) :
    indent s = s := by
  have key : ∀ cs : List Char, (∀ c ∈ cs, c ≠ '\n') →
      (cs.flatMap fun c => if c = '\n' then ['\n', ' ', ' '] else [c])
        = cs := by
    intro cs
    induction cs with
    | nil => intro _; rfl
    | cons c rest ih =>
        intro hcs
        rw [List.flatMap_cons, if_neg (hcs c (List.mem_cons_self ..)),
          ih fun d hd => hcs d (List.mem_cons_of_mem _ hd)]
        rfl
  unfold indent
  rw [key s.toList h, String.ofList_toList]

/-- Control characters are out of literals, and line breaks with them. -/
theorem oneLine_unionOfLiterals (names : List String) :
    AllChars (· ≠ '\n') (unionOfLiterals names) :=
  (allChars_unionOfLiterals names).ne (by decide)

section Binding

variable {r : Response} (hstatus : AllChars (· ≠ '\n') r.status)
include hstatus

theorem oneLine_typeLookup : AllChars (· ≠ '\n') (r.typeLookup typeVariable) :=
  have hopen : AllChars (· ≠ '\n') (typeVariable ++ "[\"") := by decide
  have hclose : AllChars (· ≠ '\n') "\"]" := by decide
  (hopen.append hstatus).append hclose

theorem oneLine_constantDecoder : AllChars (· ≠ '\n') r.constantDecoder := by
  refine (((AllChars.withGenerics ?_ ?_ ?_).append ?_).append hstatus).append ?_
  case refine_3 =>
    intro a ha
    simp only [List.mem_cons, List.not_mem_nil, or_false] at ha
    rcases ha with rfl | rfl | rfl
    · decide
    · exact hstatus
    · exact oneLine_unionOfLiterals r.headers
  all_goals decide

theorem oneLine_bodyDecoder :
    AllChars (· ≠ '\n') (r.bodyDecoder typeVariable) := by
  have hlookup := oneLine_typeLookup hstatus
  have htypeof : AllChars (· ≠ '\n') "(typeof " := by decide
  refine (((((AllChars.withGenerics ?_ ?_ ?_).append ?_).append hstatus).append
    ?_).append hlookup).append ?_
  case refine_3 =>
    intro a ha
    simp only [List.mem_cons, List.not_mem_nil, or_false] at ha
    rcases ha with rfl | rfl | rfl | rfl
    · exact hstatus
    · exact (htypeof.append hlookup).append (by decide)
    · exact (htypeof.append hlookup).append (by decide)
    · exact oneLine_unionOfLiterals r.headers
  all_goals decide

/-- The choice between the two decoders breaks its line twice. -/
theorem indent_decoderText (hchoice : r.strategy = .selectedAtRunTime) :
    indent (r.decoderText typeVariable)
      = r.typeLookup typeVariable ++ ".name === \"undefined\"\n      ? "
        ++ r.constantDecoder ++ "\n      : " ++ r.bodyDecoder typeVariable := by
  have hfirst : indent ".name === \"undefined\"\n    ? "
      = ".name === \"undefined\"\n      ? " := by decide
  have hsecond : indent "\n    : " = "\n      : " := by decide
  unfold Response.decoderText
  rw [hchoice]
  show indent (r.typeLookup typeVariable ++ ".name === \"undefined\"\n    ? "
    ++ r.constantDecoder ++ "\n    : " ++ r.bodyDecoder typeVariable) = _
  rw [indent_append, indent_append, indent_append, indent_append, hfirst,
    hsecond, indent_of_one_line (oneLine_typeLookup hstatus),
    indent_of_one_line (oneLine_constantDecoder hstatus),
    indent_of_one_line (oneLine_bodyDecoder hstatus)]

omit hstatus in
/-- The text of the expression that reads a bound type. -/
theorem typeLookup_eq :
    r.typeLookup typeVariable = Outline.lookup r.status := by
  have hopen : typeVariable ++ "[\"" = "type[\"" := by decide
  unfold Response.typeLookup Outline.lookup
  rw [hopen]

/-- A binding is the printed slot of the outline. -/
theorem binding_eq :
    binding r = "  const " ++ r.decoderName ++ r.bound.text ++ ";" := by
  unfold binding
  cases herror : r.isBasicError with
  | true =>
      have hstrategy : r.strategy = .basicError := if_pos herror
      have hbound : r.bound = .basicError r.status := if_pos herror
      unfold Response.decoderText
      rw [hstrategy, hbound]
      show _ = "  const " ++ r.decoderName
        ++ Outline.basicErrorText r.status ++ ";"
      unfold Outline.basicErrorText
      simp only [String.append_assoc]
  | false =>
      have herror : ¬ r.isBasicError = true := by
        rw [herror]
        decide
      have hstrategy : r.strategy = .selectedAtRunTime := if_neg herror
      have hbound : r.bound
          = .choice r.status (unionOfLiterals r.headers) r.decodedUse :=
        if_neg herror
      have hdecoded : r.decodedUse.text = r.decodedType := rfl
      rw [indent_decoderText hstatus hstrategy, hstrategy, hbound]
      show _ = "  const " ++ r.decoderName
        ++ Outline.choiceText r.status (unionOfLiterals r.headers) r.decodedUse
        ++ ";"
      unfold Outline.choiceText Response.constantDecoder Response.bodyDecoder
      simp only [typeLookup_eq, hdecoded, String.append_assoc]

end Binding

-- ====================================================== the printed text

section Printed

variable (b : DecoderBlock)

theorem defaultResponses_eq : b.defaultResponses = b.outline.defaultsText := by
  unfold defaultResponses Outline.defaultsText outline
  rw [List.map_map]
  rfl

/-- The type parameters with their defaults, printed. -/
theorem withGenerics_parametersWithDefaults (name : String) :
    withGenerics name b.parametersWithDefaults
      = Outline.declared name b.outline.parameters := by
  unfold parametersWithDefaults Outline.declared outline
  rw [List.map_flatMap]
  rfl

theorem responsesType_eq : b.responsesType = b.outline.typeText := by
  unfold responsesType Outline.typeText
  rw [withGenerics_parametersWithDefaults]
  unfold outline
  rw [List.map_map]
  rfl

theorem signature_eq : b.signature = b.outline.headText := by
  unfold signature Outline.headText
  rw [withGenerics_parametersWithDefaults]
  unfold returnType outline
  rw [List.map_map]
  rfl

theorem overrideTest_eq : b.overrideTest = b.outline.testText := by
  have hmarker : " =>\n    typeof d[\"" ++ (markerField
      ++ "\"] !== \"undefined\";\n\n")
      = " =>\n    typeof d[\"_A\"] !== \"undefined\";\n\n" := by decide
  unfold overrideTest Outline.testText
  simp only [String.append_assoc]
  rw [hmarker]
  rfl

theorem mergedTypes_eq : b.mergedTypes = b.outline.mergeText := by
  have hopen : "  const " ++ typeVariable ++ " = " = "  const type = " := by
    decide
  unfold mergedTypes Outline.mergeText
  rw [hopen]
  rfl

theorem bindings_eq
    (hstatuses : ∀ r ∈ b.responses, AllChars (· ≠ '\n') r.status) :
    b.bindings = b.outline.bindingsText := by
  unfold bindings Outline.bindingsText outline
  rw [List.map_map, List.map_congr_left fun r hr => binding_eq (hstatuses r hr)]
  rfl

theorem decoderFunction_eq
    (hstatuses : ∀ r ∈ b.responses, AllChars (· ≠ '\n') r.status) :
    b.decoderFunction = b.outline.functionText := by
  unfold decoderFunction Outline.functionText
  rw [signature_eq, overrideTest_eq, mergedTypes_eq, bindings_eq b hstatuses]
  rfl

/-- The text of a block is its printed outline. -/
theorem text_eq_outline
    (hstatuses : ∀ r ∈ b.responses, AllChars (· ≠ '\n') r.status) :
    b.text = b.outline.text := by
  unfold DecoderBlock.text Outline.text
  rw [defaultResponses_eq, responsesType_eq, decoderFunction_eq b hstatuses]
  rfl

end Printed

end DecoderBlock

end ApiContract
