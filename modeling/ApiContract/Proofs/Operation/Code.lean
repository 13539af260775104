/-
The code of an accepted operation, case by case: the request type alone when
no decoders are wanted or no response counts as a success, and otherwise the
request type, a blank line and the decoder block. The code is put together
by a test on the block's text, which is sound because a block is never
empty.
-/
import ApiContract.Operation.Code
import ApiContract.Proofs.Operation.Rules

namespace ApiContract

-- ================================================================ block

/-- The block is made for the first response that counts as a success. -/
theorem DecoderBlock.ofResponses?_of_find? {id : String} {rs : List Response}
    {s : Response} (h : rs.find? Response.isSuccess = some s) :
    ofResponses? id rs = some ⟨DecoderNames.ofId id, rs, s⟩ := by
  unfold ofResponses?
  rw [h]
  rfl

theorem DecoderBlock.ofResponses?_eq_none_iff {id : String}
    {rs : List Response} :
    ofResponses? id rs = none ↔ rs.find? Response.isSuccess = none :=
  Option.map_eq_none_iff

/-- A block is there exactly when a response counts as a success, and is made
for the first that does. -/
theorem DecoderBlock.ofResponses?_eq_some_iff {id : String}
    {rs : List Response} {b : DecoderBlock} :
    ofResponses? id rs = some b
      ↔ b.names = DecoderNames.ofId id ∧ b.responses = rs
        ∧ rs.find? Response.isSuccess = some b.success := by
  unfold ofResponses?
  rw [Option.map_eq_some_iff]
  constructor
  · rintro ⟨success, hfind, rfl⟩
    exact ⟨rfl, rfl, hfind⟩
  · rintro ⟨hnames, hresponses, hfind⟩
    refine ⟨b.success, hfind, ?_⟩
    rw [← hnames, ← hresponses]

/-- A block begins with its first declaration. -/
theorem DecoderBlock.text_ne_empty (b : DecoderBlock) : b.text ≠ "" := by
  intro h
  have hlist := congrArg String.toList h
  unfold DecoderBlock.text defaultResponses at hlist
  rw [String.intercalate_cons_cons] at hlist
  simp only [String.toList_append] at hlist
  cases hlist

namespace Operation

variable {op : Operation}

-- ================================================================= code

/-- An accepted operation has its code. -/
theorem Accepted.code_result (h : op.Accepted) (decoders : Bool) :
    (op.code decoders).result = .ok (op.codeText decoders) :=
  Logged.result_bind_of_ok h

/-- An operation that breaks a rule has none. -/
theorem accepted_of_code_result {decoders : Bool} {text : String}
    (h : (op.code decoders).result = .ok text) :
    op.Accepted ∧ text = op.codeText decoders := by
  obtain ⟨⟨⟩, hcheck, hcode⟩ := Logged.result_bind_eq_ok.1 h
  rw [Logged.result_pure] at hcode
  cases hcode
  exact ⟨hcheck, rfl⟩

/-- An accepted operation has its code, with the notices of its check. -/
theorem Accepted.code_eq (h : op.Accepted) (decoders : Bool) :
    op.code decoders = ⟨op.check.notices, .ok (op.codeText decoders)⟩ := by
  unfold code
  rw [Logged.bind_of_ok h]
  exact congrArg (Logged.mk · _) (List.append_nil _)

/-- An operation that breaks a rule fails with it, and what its check had to
say until then is said. -/
theorem code_of_rejected {v : Violation} (h : op.check.result = .error v)
    (decoders : Bool) : op.code decoders = ⟨op.check.notices, .error v⟩ :=
  Logged.bind_of_error h

theorem codeText_without_decoders : op.codeText false = op.requestTypeText :=
  rfl

theorem codeText_of_no_success (h : op.success? = none) (decoders : Bool) :
    op.codeText decoders = op.requestTypeText := by
  have hblock : DecoderBlock.ofResponses? op.id op.responses = none :=
    DecoderBlock.ofResponses?_eq_none_iff.2 h
  have htext : decoderBlockText op.id op.responses = "" := by
    unfold decoderBlockText
    rw [hblock]
  cases decoders with
  | false => rfl
  | true =>
      show (if (decoderBlockText op.id op.responses).isEmpty then _ else _) = _
      rw [htext]
      rfl

theorem codeText_of_block {b : DecoderBlock}
    (h : DecoderBlock.ofResponses? op.id op.responses = some b) :
    op.codeText true = op.requestTypeText ++ "\n\n" ++ b.text := by
  have htext : decoderBlockText op.id op.responses = b.text := by
    unfold decoderBlockText
    rw [h]
  show (if (decoderBlockText op.id op.responses).isEmpty then _ else _) = _
  rw [htext, if_neg]
  rw [String.isEmpty_iff]
  exact b.text_ne_empty

/-- The decoders change the text of an operation exactly when one of its
responses counts as a success. -/
theorem codeText_ne_iff :
    op.codeText true ≠ op.codeText false ↔ op.success?.isSome = true := by
  cases hsuccess : op.success? with
  | none =>
      rw [codeText_of_no_success hsuccess, codeText_without_decoders]
      exact ⟨fun hne => absurd rfl hne, fun h => by cases h⟩
  | some s =>
      refine ⟨fun _ => rfl, fun _ heq => ?_⟩
      rw [codeText_of_block (DecoderBlock.ofResponses?_of_find? hsuccess),
        codeText_without_decoders, String.append_assoc,
        String.append_eq_left_iff, String.append_eq_empty_iff] at heq
      exact DecoderBlock.text_ne_empty _ heq.2

end Operation

end ApiContract
