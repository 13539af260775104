/-
The code of an accepted operation is well formed for the scanner: it is read
to its end, comments and literals are closed, brackets are well nested. The
names of headers and parameters are arbitrary; statuses, type texts and the
path go into the code as they are, and are assumed to be what a well-formed
declaration can hold.
-/
import ApiContract.Proofs.Operation.Code
import ApiContract.Proofs.Scanner.DecoderBlock

namespace ApiContract

open Scanner Text

/-- The block of an operation is plain when its id is an identifier and its
responses are plain. -/
theorem DecoderBlock.isPlain_of_ofResponses? {id : String}
    {rs : List Response} {b : DecoderBlock}
    (hblock : ofResponses? id rs = some b) (hid : isIdentifier id = true)
    (hstatuses : ∀ r ∈ rs, AllChars (Char.isAlphanum · = true) r.status)
    (hpayloads : ∀ r ∈ rs, IsTypeText r.payload) : IsPlain b := by
  obtain ⟨hnames, hresponses, hsuccess⟩ := ofResponses?_eq_some_iff.1 hblock
  obtain ⟨htype, hdecoder, hdefault, hresponsesName⟩ :=
    isIdentifier_decoderNames hid
  have hinert : ∀ {name : String}, isIdentifier name = true → Inert name :=
    fun hname => inert_of_identifierParts (allChars_of_isIdentifier hname)
  rw [← hnames] at htype hdecoder hdefault hresponsesName
  rw [← hresponses] at hsuccess hstatuses hpayloads
  exact
    { responsesType := hinert htype
      decoder := hinert hdecoder
      defaultDecoder := hinert hdefault
      defaultResponses := hinert hresponsesName
      status := hstatuses
      payload := hpayloads
      success := List.mem_of_find?_eq_some hsuccess }

namespace Operation

/-- The code of an accepted operation whose statuses are letters and digits,
whose type texts begin no literal and no comment and are well nested, and
whose path does not end the comment it stands in, is its request type and its
decoder block, and is well formed, whatever its headers and parameters are
called. -/
theorem code_wellFormed (op : Operation) (decoders : Bool)
    (accepted : op.Accepted)
    (statuses : ∀ r ∈ op.responses,
      AllChars (Char.isAlphanum · = true) r.status)
    (parameterTypes : ∀ p ∈ op.parameters, IsTypeText p.typeText)
    (payloadTypes : ∀ r ∈ op.responses, IsTypeText r.payload)
    (path : ¬ "*/".toList <:+: op.path.toList) :
    (op.code decoders).result = .ok (op.codeText decoders)
      ∧ WellFormed (op.codeText decoders) := by
  obtain ⟨hid, -, -⟩ := (accepted_iff op).1 accepted
  have hrequest : Inert op.requestTypeText :=
    inert_requestTypeText hid path parameterTypes statuses payloadTypes
  have hinert : Inert (op.codeText decoders) := by
    cases decoders with
    | false => exact hrequest
    | true =>
        cases hblock : DecoderBlock.ofResponses? op.id op.responses with
        | none =>
            have hnone : op.success? = none :=
              DecoderBlock.ofResponses?_eq_none_iff.1 hblock
            rw [codeText_of_no_success hnone]
            exact hrequest
        | some b =>
            have hplain := DecoderBlock.isPlain_of_ofResponses? hblock hid
              statuses payloadTypes
            have hblank : Inert "\n\n" := fun _ => rfl
            rw [codeText_of_block hblock]
            exact (hrequest.append hblank).append
              (DecoderBlock.inert_text hplain)
  exact ⟨accepted.code_result decoders, hinert []⟩

theorem tangled_wellFormed : tangled.Accepted
    ∧ (tangled.code true).result = .ok (tangled.codeText true)
    ∧ WellFormed (tangled.codeText true) :=
  ⟨tangled_accepted, code_wellFormed tangled true tangled_accepted (by decide)
    (by decide) (by decide) (by decide +kernel)⟩

end Operation

end ApiContract
