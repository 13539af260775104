/-
The decoder block under the scanner. The declarations open and close their
own brackets, so each of them is inert once the parts that depend on the
responses are. A status stands in code, where letters and digits are inert,
and inside two literals of every choice, which it does not leave either
(`inert_lookup`).
-/
import ApiContract.Proofs.DecoderBlock.Outline
import ApiContract.Proofs.Scanner.RequestType

namespace ApiContract

open Scanner Text

-- ======================================================== single responses

section Response

variable {r : Response}
  (hstatus : AllChars (Char.isAlphanum · = true) r.status)
include hstatus

/-- A status behind a letter is inert. -/
theorem inert_letter_status {letter : String} (hletter : Inert letter) :
    Inert (letter ++ r.status) :=
  hletter.append (inert_of_alphanum hstatus)

theorem inert_parameterNames : ∀ name ∈ r.parameterNames, Inert name := by
  intro name hname
  simp only [Response.parameterNames, List.mem_cons, List.not_mem_nil,
    or_false] at hname
  rcases hname with rfl | rfl
  · exact inert_letter_status hstatus fun _ => rfl
  · exact inert_letter_status hstatus fun _ => rfl

theorem inert_runtimeType : Inert r.runtimeType :=
  have hname : Inert "t.Type" := fun _ => rfl
  hname.withGenerics (inert_parameterNames hstatus)

theorem inert_decodedType : Inert r.decodedType :=
  inert_responseType r.headers hstatus
    (inert_letter_status hstatus fun _ => rfl)

theorem inert_parametersWithDefaults (hpayload : IsTypeText r.payload) :
    ∀ p ∈ r.parametersWithDefaults, Inert p := by
  intro p hp
  obtain ⟨name, hname, rfl⟩ := List.mem_map.1 hp
  have hequals : Inert " = " := fun _ => rfl
  exact ((inert_parameterNames hstatus name hname).append hequals).append
    (inert_of_type hpayload)

theorem inert_defaultEntry (hpayload : IsTypeText r.payload) :
    Inert r.defaultEntry := by
  have hindent : Inert "  " := fun _ => rfl
  have hcolon : Inert ": " := fun _ => rfl
  refine ((hindent.append (inert_of_alphanum hstatus)).append hcolon).append ?_
  split
  · exact fun _ => rfl
  · exact inert_of_type hpayload

theorem inert_typeField : Inert r.typeField := by
  have hindent : Inert "  " := fun _ => rfl
  have hcolon : Inert ": " := fun _ => rfl
  have hsemicolon : Inert ";" := fun _ => rfl
  exact (((hindent.append (inert_of_alphanum hstatus)).append hcolon).append
    (inert_runtimeType hstatus)).append hsemicolon

-- ============================================================= bindings

/-- Reading a bound type by its status: the status is inside a literal. -/
theorem inert_lookup : Inert (Outline.lookup r.status) := by
  intro owed
  have hopen : Reads ⟨.code, owed⟩ "type[\"" ⟨.literal, ']' :: owed⟩ := rfl
  have hclose : Reads ⟨.literal, ']' :: owed⟩ "\"]" ⟨.code, owed⟩ := rfl
  exact (hopen.append (reads_literal_of_alphanum hstatus _)).append hclose

/-- The type of a field of what a lookup yields. -/
theorem inert_typeof_lookup {field : String}
    (hfield : ∀ owed, Reads ⟨.code, ')' :: owed⟩ field ⟨.code, owed⟩) :
    Inert ("(typeof " ++ Outline.lookup r.status ++ field) := by
  intro owed
  have hopen : Reads ⟨.code, owed⟩ "(typeof " ⟨.code, ')' :: owed⟩ := rfl
  exact (hopen.append (inert_lookup hstatus _)).append (hfield owed)

theorem inert_basicErrorText : Inert (Outline.basicErrorText r.status) := by
  intro owed
  have hword := inert_of_alphanum hstatus
  have hequals : Reads ⟨.code, owed⟩ " = " ⟨.code, owed⟩ := rfl
  have hname : Inert "r.basicErrorResponseDecoder" := fun _ => rfl
  have hdecoder : Inert (withGenerics "r.basicErrorResponseDecoder" [r.status]) :=
    hname.withGenerics fun a ha => by
      rw [List.mem_singleton.1 ha]
      exact hword
  have hopen : Reads ⟨.code, owed⟩ "(" ⟨.code, ')' :: owed⟩ := rfl
  have hclose : Reads ⟨.code, ')' :: owed⟩ ")" ⟨.code, owed⟩ := rfl
  exact (((hequals.append (hdecoder _)).append hopen).append
    (hword _)).append hclose

theorem inert_choiceText :
    Inert (Outline.choiceText r.status (unionOfLiterals r.headers)
      r.decodedUse) := by
  have hword := inert_of_alphanum hstatus
  have hlookup := inert_lookup hstatus
  have hheaders := inert_unionOfLiterals r.headers
  have hconstantName : Inert "r.constantResponseDecoder" := fun _ => rfl
  have hbodyName : Inert "r.ioResponseDecoder" := fun _ => rfl
  have htargetName : Inert "r.ResponseDecoder" := fun _ => rfl
  have hconstant : Inert (withGenerics "r.constantResponseDecoder"
      ["undefined", r.status, unionOfLiterals r.headers]) := by
    refine hconstantName.withGenerics fun a ha => ?_
    simp only [List.mem_cons, List.not_mem_nil, or_false] at ha
    rcases ha with rfl | rfl | rfl
    · exact fun _ => rfl
    · exact hword
    · exact hheaders
  have hbody : Inert (withGenerics "r.ioResponseDecoder"
      [r.status, "(typeof " ++ Outline.lookup r.status ++ ")[\"_A\"]",
        "(typeof " ++ Outline.lookup r.status ++ ")[\"_O\"]",
        unionOfLiterals r.headers]) := by
    refine hbodyName.withGenerics fun a ha => ?_
    simp only [List.mem_cons, List.not_mem_nil, or_false] at ha
    rcases ha with rfl | rfl | rfl | rfl
    · exact hword
    · exact inert_typeof_lookup hstatus fun _ => rfl
    · exact inert_typeof_lookup hstatus fun _ => rfl
    · exact hheaders
  have htarget : Inert (withGenerics "r.ResponseDecoder" [r.decodedUse.text]) :=
    htargetName.withGenerics fun a ha => by
      rw [List.mem_singleton.1 ha]
      exact inert_decodedType hstatus
  intro owed
  -- inside the parentheses of the choice one bracket more is owed
  have hopen : Reads ⟨.code, owed⟩ " = (" ⟨.code, ')' :: owed⟩ := rfl
  have htest : Reads ⟨.code, ')' :: owed⟩
      ".name === \"undefined\"\n      ? " ⟨.code, ')' :: owed⟩ := rfl
  have hcall : Reads ⟨.code, ')' :: owed⟩ "(" ⟨.code, ')' :: ')' :: owed⟩ := rfl
  have hvoid : Reads ⟨.code, ')' :: ')' :: owed⟩ ", undefined)"
      ⟨.code, ')' :: owed⟩ := rfl
  have helse : Reads ⟨.code, ')' :: owed⟩ "\n      : " ⟨.code, ')' :: owed⟩ := rfl
  have hcomma : Reads ⟨.code, ')' :: ')' :: owed⟩ ", "
      ⟨.code, ')' :: ')' :: owed⟩ := rfl
  have hend : Reads ⟨.code, ')' :: ')' :: owed⟩ ")" ⟨.code, ')' :: owed⟩ := rfl
  have hclose : Reads ⟨.code, ')' :: owed⟩ ") as " ⟨.code, owed⟩ := rfl
  have hfirst := ((((((hopen.append (hlookup _)).append htest).append
    (hconstant _)).append hcall).append (hword _)).append hvoid).append helse
  exact ((((((((hfirst.append (hbody _)).append hcall).append
    (hword _)).append hcomma).append (hlookup _)).append hend).append
    hclose).append (htarget _))

/-- A binding opens and closes its own brackets. -/
theorem inert_binding : Inert (DecoderBlock.binding r) := by
  have honeLine : AllChars (· ≠ '\n') r.status := hstatus.ne (by decide)
  have hconst : Inert "  const " := fun _ => rfl
  have hsemicolon : Inert ";" := fun _ => rfl
  have hbound : Inert r.bound.text := by
    unfold Response.bound
    split
    · exact inert_basicErrorText hstatus
    · exact inert_choiceText hstatus
  have hname : Inert r.decoderName := inert_letter_status hstatus fun _ => rfl
  rw [DecoderBlock.binding_eq honeLine]
  exact ((hconst.append hname).append hbound).append hsemicolon

end Response

-- ========================================================= declarations

/-- What the scanner needs to know of a block: its names are inert, its
statuses are letters and digits, its payloads are type texts, and the
success is one of its responses. -/
structure Scanner.IsPlain (b : DecoderBlock) : Prop where
  responsesType : Inert b.names.responsesType
  decoder : Inert b.names.decoder
  defaultDecoder : Inert b.names.defaultDecoder
  defaultResponses : Inert b.names.defaultResponses
  status : ∀ r ∈ b.responses, AllChars (Char.isAlphanum · = true) r.status
  payload : ∀ r ∈ b.responses, IsTypeText r.payload
  success : b.success ∈ b.responses

namespace DecoderBlock

variable {b : DecoderBlock} (h : IsPlain b)
include h

theorem inert_parametersApplied {name : String} (hname : Inert name) :
    Inert (withGenerics name b.parametersWithDefaults) := by
  refine hname.withGenerics fun p hp => ?_
  obtain ⟨r, hr, hp⟩ := List.mem_flatMap.1 hp
  exact inert_parametersWithDefaults (h.status r hr) (h.payload r hr) p hp

theorem inert_appliedResponsesType : Inert b.appliedResponsesType := by
  refine h.responsesType.withGenerics fun name hname => ?_
  obtain ⟨r, hr, hname⟩ := List.mem_flatMap.1 hname
  exact inert_parameterNames (h.status r hr) name hname

omit h in
/-- A declaration that gives each response a line in its brackets. -/
theorem inert_perResponse {head name separator : String}
    {line : Response → String} {rs : List Response} (hhead : Inert head)
    (hname : Inert name) (hseparator : Inert separator)
    (hline : ∀ r ∈ rs, Inert (line r)) :
    Inert (head ++ name ++ " = "
      ++ braced ("\n" ++ separator.intercalate (rs.map line) ++ "\n")
      ++ ";") := by
  have hequals : Inert " = " := fun _ => rfl
  have hbreak : Inert "\n" := fun _ => rfl
  have hsemicolon : Inert ";" := fun _ => rfl
  have hlines := (hbreak.append (hseparator.intercalate_map hline)).append hbreak
  exact (((hhead.append hname).append hequals).append hlines.braced).append
    hsemicolon

theorem inert_defaultResponses : Inert b.defaultResponses :=
  inert_perResponse (fun _ => rfl) h.defaultResponses (fun _ => rfl)
    fun r hr => inert_defaultEntry (h.status r hr) (h.payload r hr)

theorem inert_responsesType : Inert b.responsesType :=
  inert_perResponse (fun _ => rfl) (inert_parametersApplied h h.responsesType)
    (fun _ => rfl) fun r hr => inert_typeField (h.status r hr)

-- ============================================================ function

theorem inert_returnType : Inert b.returnType := by
  have hname : Inert "r.ResponseDecoder" := fun _ => rfl
  have hbar : Inert " | " := fun _ => rfl
  refine hname.withGenerics fun a ha => ?_
  rw [List.mem_singleton.1 ha]
  exact hbar.intercalate_map fun r hr => inert_decodedType (h.status r hr)

theorem inert_signature : Inert b.signature := by
  intro owed
  have hexport : Reads ⟨.code, owed⟩ "export function " ⟨.code, owed⟩ := rfl
  have hopen : Reads ⟨.code, owed⟩ "(\n  overrideTypes:\n    | Partial<"
      ⟨.code, ')' :: owed⟩ := rfl
  have hbar : Reads ⟨.code, ')' :: owed⟩ ">\n    | " ⟨.code, ')' :: owed⟩ := rfl
  have hdefault : Reads ⟨.code, ')' :: owed⟩ "\n    | undefined = "
      ⟨.code, ')' :: owed⟩ := rfl
  have hnone : Inert (braced "") := fun _ => rfl
  have hclose : Reads ⟨.code, ')' :: owed⟩ "\n): " ⟨.code, owed⟩ := rfl
  have hspace : Reads ⟨.code, owed⟩ " " ⟨.code, owed⟩ := rfl
  have hbare := inert_runtimeType (h.status b.success h.success)
  exact (((((((((hexport.append (inert_parametersApplied h h.decoder _)).append
    hopen).append (inert_appliedResponsesType h _)).append hbar).append
    (hbare _)).append hdefault).append (hnone _)).append hclose).append
    (inert_returnType h _)).append hspace

theorem inert_overrideTest : Inert b.overrideTest := by
  intro owed
  have hconst : Reads ⟨.code, owed⟩ "  const isDecoder = (d: any): d is "
      ⟨.code, owed⟩ := rfl
  have hopen : Reads ⟨.code, owed⟩ " =>\n    typeof d[\""
      ⟨.literal, ']' :: owed⟩ := rfl
  have hmarker : Reads ⟨.literal, ']' :: owed⟩ markerField
      ⟨.literal, ']' :: owed⟩ := rfl
  have hclose : Reads ⟨.literal, ']' :: owed⟩
      "\"] !== \"undefined\";\n\n" ⟨.code, owed⟩ := rfl
  have hbare := inert_runtimeType (h.status b.success h.success)
  exact (((hconst.append (hbare _)).append hopen).append hmarker).append hclose

/-- What the map of the types in force holds: the defaults, cast to the type
of all responses, and what the caller gave. -/
theorem inert_merged : Inert ("\n    ...((" ++ b.names.defaultResponses
    ++ " as unknown) as " ++ b.appliedResponsesType
    ++ "),\n    ...(isDecoder(overrideTypes) ? "
    ++ braced (" " ++ b.success.status ++ ": overrideTypes ")
    ++ " : overrideTypes)\n  ") := by
  have hspace : Inert " " := fun _ => rfl
  have hcolon : Inert ": overrideTypes " := fun _ => rfl
  have hkey := inert_of_alphanum (h.status b.success h.success)
  have hbare := ((hspace.append hkey).append hcolon).braced
  intro owed
  have hopen : Reads ⟨.code, owed⟩ "\n    ...((" ⟨.code, ')' :: ')' :: owed⟩ :=
    rfl
  have hcast : Reads ⟨.code, ')' :: ')' :: owed⟩ " as unknown) as "
      ⟨.code, ')' :: owed⟩ := rfl
  have htest : Reads ⟨.code, ')' :: owed⟩
      "),\n    ...(isDecoder(overrideTypes) ? " ⟨.code, ')' :: owed⟩ := rfl
  have hclose : Reads ⟨.code, ')' :: owed⟩ " : overrideTypes)\n  "
      ⟨.code, owed⟩ := rfl
  exact (((((hopen.append (h.defaultResponses _)).append hcast).append
    (inert_appliedResponsesType h _)).append htest).append (hbare _)).append
    hclose

theorem inert_mergedTypes : Inert b.mergedTypes := by
  have hconst : Inert "  const " := fun _ => rfl
  have hvariable : Inert typeVariable := fun _ => rfl
  have hequals : Inert " = " := fun _ => rfl
  have hend : Inert ";\n\n" := fun _ => rfl
  exact (((hconst.append hvariable).append hequals).append
    (inert_merged h).braced).append hend

theorem inert_bindings : Inert b.bindings := by
  have hseparator : Inert "\n" := fun _ => rfl
  exact hseparator.intercalate_map fun r hr => inert_binding (h.status r hr)

omit h in
/-- A composition is inert when its names are: a call closes what it opens. -/
theorem inert_composition {c : Composition}
    (hnames : ∀ name ∈ c.names, Inert name) : Inert c.text := by
  induction c with
  | decoder name => exact hnames name (List.mem_singleton.2 rfl)
  | compose first second ihFirst ihSecond =>
      intro owed
      have hopen : Reads ⟨.code, owed⟩ "r.composeResponseDecoders("
          ⟨.code, ')' :: owed⟩ := rfl
      have hcomma : Reads ⟨.code, ')' :: owed⟩ ", " ⟨.code, ')' :: owed⟩ := rfl
      have hclose : Reads ⟨.code, ')' :: owed⟩ ")" ⟨.code, owed⟩ := rfl
      have hfirst := ihFirst fun name hname =>
        hnames name (List.mem_append_left _ hname)
      have hsecond := ihSecond fun name hname =>
        hnames name (List.mem_append_right _ hname)
      exact (((hopen.append (hfirst _)).append hcomma).append
        (hsecond _)).append hclose

theorem inert_returned : Inert b.returned := by
  unfold returned
  cases hc : b.composition? with
  | none => exact fun _ => rfl
  | some c =>
      have hreturn : Inert "\n\n  return " := fun _ => rfl
      have hsemicolon : Inert ";" := fun _ => rfl
      have hnames : ∀ name ∈ c.names, Inert name := by
        rw [names_of_composition? hc]
        intro name hname
        obtain ⟨r, hr, rfl⟩ := List.mem_map.1 hname
        exact inert_letter_status (h.status r hr) fun _ => rfl
      exact (hreturn.append (inert_composition hnames)).append hsemicolon

theorem inert_decoderFunction : Inert b.decoderFunction := by
  have hbreak : Inert "\n" := fun _ => rfl
  exact (inert_signature h).append (((((hbreak.append
    (inert_overrideTest h)).append (inert_mergedTypes h)).append
    (inert_bindings h)).append (inert_returned h)).append hbreak).braced

theorem inert_defaultDecoder : Inert b.defaultDecoder := by
  have hconst : Inert "export const " := fun _ => rfl
  have harrow : Inert " = () => " := fun _ => rfl
  have hcall : Inert "();" := fun _ => rfl
  exact (((hconst.append h.defaultDecoder).append harrow).append
    h.decoder).append hcall

/-- The four declarations are inert. -/
theorem inert_text : Inert b.text := by
  have hblank : Inert "\n\n" := fun _ => rfl
  refine appendClosed_inert.intercalate hblank fun part hpart => ?_
  simp only [List.mem_cons, List.not_mem_nil, or_false] at hpart
  rcases hpart with rfl | rfl | rfl | rfl
  · exact inert_defaultResponses h
  · exact inert_responsesType h
  · exact inert_decoderFunction h
  · exact inert_defaultDecoder h

end DecoderBlock

end ApiContract
