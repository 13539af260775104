/-
The declarations of a decoder block agree with each other and with the
responses. Each list of the block comes from a traversal of its own: the
entries of the default map, the type parameters and the fields of the type of
all responses, the members of what the function's decoder yields, the
bindings, the names that are composed. `Aligned` says what stands at every
place of every list, so the lists have the length and the order of the
responses, and that no name is declared twice.

Two arguments carry this. The type parameters come in pairs, so the pair of
the response at place `i` is at the places `2 * i` and `2 * i + 1`
(`getElem?_flatMap_pair`). Names differ because statuses do, and a decoded
parameter is no encoded one because they begin with different letters.
-/
import Mathlib.Data.List.Nodup
import ApiContract.Proofs.DecoderBlock.Outline
import ApiContract.Proofs.Operation.Code

namespace ApiContract

open Text

-- ============================================================ alignment

/-- The outline fits the responses. -/
structure Outline.Aligned (o : Outline) (rs : List Response) : Prop where
  /-- One entry per response, under its status, with the payload as its
  value; only the payload of no body is written differently. -/
  entries : ∀ i : Nat, o.entries[i]? = rs[i]?.map fun r =>
    (r.status, if r.payload = "undefined" then "t.undefined" else r.payload)
  /-- Two type parameters per response, both with the payload as default. -/
  parameters_length : o.parameters.length = 2 * rs.length
  decoded : ∀ i : Nat, o.parameters[2 * i]? = rs[i]?.map fun r =>
    ("A" ++ r.status, r.payload)
  encoded : ∀ i : Nat, o.parameters[2 * i + 1]? = rs[i]?.map fun r =>
    ("C" ++ r.status, r.payload)
  /-- One field per response, a runtime type over its two parameters. -/
  fields : ∀ i : Nat, o.fields[i]? = rs[i]?.map fun r =>
    (r.status, ⟨"t.Type", ["A" ++ r.status, "C" ++ r.status]⟩)
  /-- The function has the same parameters, and both times applies the type
  to exactly these. -/
  functionParameters : o.functionParameters = o.parameters
  partialMap : o.partialMap = ⟨o.typeName, o.parameters.map Prod.fst⟩
  castMap : o.castMap = ⟨o.typeName, o.parameters.map Prod.fst⟩
  /-- The function yields one member per response. -/
  members : ∀ i : Nat, o.members[i]? = rs[i]?.map fun r =>
    ⟨"r.IResponseType",
      [r.status, "A" ++ r.status, unionOfLiterals r.headers]⟩
  /-- One binding per response: the decoder of basic errors or the choice
  between no body and a body, with the header names of the response and the
  type of its member. -/
  bindings : ∀ i : Nat, o.bindings[i]? = rs[i]?.map fun r =>
    ("d" ++ r.status,
      if r.payload = "Error" then .basicError r.status
      else .choice r.status (unionOfLiterals r.headers)
        ⟨"r.IResponseType",
          [r.status, "A" ++ r.status, unionOfLiterals r.headers]⟩)
  /-- What is returned composes all bound names, in order. -/
  returned : o.returned.map Composition.names
    = some (o.bindings.map Prod.fst)
  /-- The map that is spread and the function that is called are those of
  the block. -/
  spreadName : o.spreadName = o.defaultsName
  calledName : o.calledName = o.functionName
  /-- No key, no type parameter and no bound name stands twice. -/
  entries_nodup : (o.entries.map Prod.fst).Nodup
  parameters_nodup : (o.parameters.map Prod.fst).Nodup
  bindings_nodup : (o.bindings.map Prod.fst).Nodup

-- =============================================================== places

/-- Two entries per item: those of the item at place `i` are at `2 * i` and
behind that. -/
theorem getElem?_flatMap_pair {α β : Type} (f g : α → β) :
    ∀ (l : List α) (i : Nat),
      (l.flatMap fun x => [f x, g x])[2 * i]? = l[i]?.map f
        ∧ (l.flatMap fun x => [f x, g x])[2 * i + 1]? = l[i]?.map g := by
  intro l
  induction l with
  | nil =>
      intro i
      exact ⟨rfl, rfl⟩
  | cons x rest ih =>
      intro i
      rw [List.flatMap_cons]
      cases i with
      | zero => exact ⟨rfl, rfl⟩
      | succ i =>
          obtain ⟨hf, hg⟩ := ih i
          rw [show 2 * (i + 1) = 2 * i + 2 from by omega]
          exact ⟨hf, hg⟩

theorem length_flatMap_pair {α β : Type} (f g : α → β) (l : List α) :
    (l.flatMap fun x => [f x, g x]).length = 2 * l.length := by
  induction l with
  | nil => rfl
  | cons x rest ih =>
      rw [List.flatMap_cons, List.length_append, ih]
      simp only [List.length_cons, List.length_nil]
      omega

-- ================================================================ names

/-- A letter in front of statuses keeps them apart. -/
theorem nodup_map_letter {rs : List Response} (letter : String)
    (h : (rs.map Response.status).Nodup) :
    (rs.map fun r => letter ++ r.status).Nodup := by
  rw [show (rs.map fun r => letter ++ r.status)
      = (rs.map Response.status).map (letter ++ ·) from (List.map_map ..).symm]
  exact List.Nodup.map (fun _ _ => (String.append_right_inj letter).1) h

/-- A decoded type parameter is no encoded one. -/
theorem decoded_ne_encoded (s t : String) : "A" ++ s ≠ "C" ++ t := by
  intro h
  have hlist := congrArg String.toList h
  rw [String.toList_append, String.toList_append] at hlist
  cases hlist

/-- All type parameters differ when the statuses do. -/
theorem nodup_parameterNames {rs : List Response}
    (h : (rs.map Response.status).Nodup) :
    (rs.flatMap Response.parameterNames).Nodup := by
  rw [List.nodup_flatMap]
  constructor
  · intro r _
    refine List.nodup_cons.2 ⟨fun hmem => ?_, List.nodup_singleton _⟩
    exact decoded_ne_encoded _ _ (List.mem_singleton.1 hmem)
  · refine (List.pairwise_map.1 h).imp fun {r r'} hne => ?_
    intro name hname hname'
    simp only [Response.parameterNames, Response.decodedParameter,
      Response.encodedParameter, List.mem_cons, List.not_mem_nil,
      or_false] at hname hname'
    rcases hname with rfl | rfl <;> rcases hname' with heq | heq
    · exact hne ((String.append_right_inj "A").1 heq)
    · exact decoded_ne_encoded _ _ heq
    · exact decoded_ne_encoded _ _ heq.symm
    · exact hne ((String.append_right_inj "C").1 heq)

-- ============================================================== outline

namespace DecoderBlock

/-- The names of the outline's parameters are those of the block. -/
theorem map_fst_parameters (b : DecoderBlock) :
    b.outline.parameters.map Prod.fst = b.parameterNames := by
  unfold outline parameterNames
  rw [List.map_flatMap]
  rfl

/-- A block with a response composes its decoders. -/
theorem map_names_composition? {b : DecoderBlock} (h : b.responses ≠ []) :
    b.composition?.map Composition.names
      = some (b.responses.map Response.decoderName) := by
  obtain ⟨first, others, hc, hnames⟩ := composition?_of_ne_nil h
  rw [hc, Option.map_some, names_ofNames, hnames]

/-- The outline of a block fits its responses when their statuses differ. -/
theorem aligned_outline {b : DecoderBlock} (hne : b.responses ≠ [])
    (hnodup : (b.responses.map Response.status).Nodup) :
    b.outline.Aligned b.responses where
  entries i := by
    show (b.responses.map _)[i]? = _
    rw [List.getElem?_map]
    refine congrArg (fun f => b.responses[i]?.map f) (funext fun r => ?_)
    unfold Response.isVoid
    by_cases hvoid : r.payload = "undefined"
    · simp [hvoid, Response.voidPayload]
    · simp [hvoid, Response.voidPayload]
  parameters_length := length_flatMap_pair _ _ b.responses
  decoded i := (getElem?_flatMap_pair _ _ b.responses i).1
  encoded i := (getElem?_flatMap_pair _ _ b.responses i).2
  fields i := List.getElem?_map
  functionParameters := rfl
  partialMap := by
    rw [map_fst_parameters]
    rfl
  castMap := by
    rw [map_fst_parameters]
    rfl
  members i := List.getElem?_map
  bindings i := by
    show (b.responses.map _)[i]? = _
    rw [List.getElem?_map]
    refine congrArg (fun f => b.responses[i]?.map f) (funext fun r => ?_)
    unfold Response.bound Response.isBasicError
    by_cases herror : r.payload = "Error"
    · simp [herror, Response.errorPayload, Response.decoderName]
    · simp [herror, Response.errorPayload, Response.decoderName,
        Response.decodedUse]
  returned := by
    show b.composition?.map Composition.names = _
    rw [map_names_composition? hne]
    show _ = some ((b.responses.map _).map Prod.fst)
    rw [List.map_map]
    rfl
  spreadName := rfl
  calledName := rfl
  entries_nodup := by
    show ((b.responses.map _).map Prod.fst).Nodup
    rw [List.map_map]
    exact hnodup
  parameters_nodup := by
    rw [map_fst_parameters]
    exact nodup_parameterNames hnodup
  bindings_nodup := by
    show ((b.responses.map _).map Prod.fst).Nodup
    rw [List.map_map]
    exact nodup_map_letter "d" hnodup

end DecoderBlock

-- ============================================================ operations

namespace Operation

/-- An accepted operation with a success response and statuses of one line
has a decoder block whose text prints an outline that fits its responses. -/
theorem decoderBlock_aligned (op : Operation) (accepted : op.Accepted)
    (success : op.success?.isSome)
    (oneLine : ∀ r ∈ op.responses, AllChars (· ≠ '\n') r.status) :
    ∃ b, DecoderBlock.ofResponses? op.id op.responses = some b
      ∧ b.text = b.outline.text ∧ b.outline.Aligned op.responses := by
  obtain ⟨s, hs⟩ := Option.isSome_iff_exists.1 success
  obtain ⟨-, -, hnodup⟩ := (accepted_iff op).1 accepted
  let b : DecoderBlock := ⟨DecoderNames.ofId op.id, op.responses, s⟩
  have hblock : DecoderBlock.ofResponses? op.id op.responses = some b :=
    DecoderBlock.ofResponses?_of_find? hs
  have hne : op.responses ≠ [] :=
    List.ne_nil_of_mem (List.mem_of_find?_eq_some hs)
  exact ⟨b, hblock, b.text_eq_outline oneLine, b.aligned_outline hne hnodup⟩

theorem tangled_decoderBlock_aligned : tangled.Accepted
    ∧ ∃ b, DecoderBlock.ofResponses? tangled.id tangled.responses = some b
      ∧ b.text = b.outline.text ∧ b.outline.Aligned tangled.responses :=
  ⟨tangled_accepted,
    decoderBlock_aligned tangled tangled_accepted (by decide) (by decide)⟩

end Operation

end ApiContract
