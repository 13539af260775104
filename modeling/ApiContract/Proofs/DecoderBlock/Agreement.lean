/-
Every place that decides whether an operation gets a decoder block, and on
which status, decides alike. The code of the operation tests the text of the
block, the block and the summary line each look for a success response, and a
set counts the operations that have one.

# One operation

`HasNoBlock` and `HasBlockOn` say what all places do when no response counts
as a success and when one does. The line that sums an operation up could
still end in both ways at once, its names being arbitrary; it does not,
because two endings of one length are the same (`EndsIn.eq_of_length`) and
a success status has three characters.

# A list of operations

A set counts as decoder blocks the operations whose text is another than
without decoders (`CountsChanged`).
-/
import ApiContract.Proofs.DecoderBlock.Outline
import ApiContract.Proofs.OperationSet

namespace ApiContract

-- ================================================== statement vocabulary

/-- Three characters, the first of them a `2`. -/
def CountsAsSuccess (status : String) : Prop :=
  ∃ c d : Char, status.toList = ['2', c, d]

/-- The line ends in this text. -/
def EndsIn (line ending : String) : Prop := ∃ front, line = front ++ ending

/-- No place gives the operation a decoder block. -/
structure Operation.HasNoBlock (op : Operation) : Prop where
  responses : ∀ r ∈ op.responses, ¬ CountsAsSuccess r.status
  block : DecoderBlock.ofResponses? op.id op.responses = none
  /-- The decoders change nothing, and there is code with or without. -/
  code : (op.code true).result = .ok (op.codeText false)
    ∧ (op.code false).result = .ok (op.codeText false)
  summary : EndsIn op.summary "no decoder block"
  summary_only : ∀ status, CountsAsSuccess status →
    ¬ EndsIn op.summary ("decoder on " ++ status)

/-- All places give the operation the block `b`, made for the response `s`. -/
structure Operation.HasBlockOn (op : Operation) (s : Response)
    (b : DecoderBlock) : Prop where
  /-- It is the first response that counts as a success. -/
  success : CountsAsSuccess s.status
  first : ∃ before after, op.responses = before ++ s :: after
    ∧ ∀ r ∈ before, ¬ CountsAsSuccess r.status
  block : DecoderBlock.ofResponses? op.id op.responses = some b
  status : b.success.status = s.status
  /-- With decoders, the block stands behind the code without, with a blank
  line between them. -/
  code : (op.code true).result = .ok (op.codeText false ++ "\n\n" ++ b.text)
    ∧ (op.code false).result = .ok (op.codeText false)
  text_ne_empty : b.text ≠ ""
  /-- The function begins with the printed slots of the outline, and the same
  status is in all slots for one: the bare type that the argument may be, the
  type that the test is for, the key that a bare type is put under. -/
  function : b.decoderFunction = b.outline.headText
    ++ Text.braced ("\n" ++ b.outline.testText ++ b.outline.mergeText
      ++ b.bindings ++ b.returned ++ "\n")
  bareStatus : b.outline.bareStatus = s.status
  testedStatus : b.outline.testedStatus = s.status
  overrideStatus : b.outline.overrideStatus = s.status
  summary : ∀ status, CountsAsSuccess status →
    (EndsIn op.summary ("decoder on " ++ status) ↔ status = s.status)
  summary_only : ¬ EndsIn op.summary "no decoder block"

/-- As many decoder blocks are counted as operation texts differ from those
of the same list without decoders, and none when there are no decoders. -/
structure OperationSet.CountsChanged (set : OperationSet)
    (entries : List (Option Operation)) (options : AssemblyOptions) :
    Prop where
  changed : ∃ plain : OperationSet,
    (ofEntries entries { options with decoders := false }).result = .ok plain
      ∧ plain.operations.length = set.operations.length
      ∧ set.decoderBlocks = (set.operations.zip plain.operations).countP
        (fun texts => texts.1 ≠ texts.2)
  without_decoders : options.decoders = false → set.decoderBlocks = 0

-- ============================================================= successes

theorem Response.isSuccess_iff (r : Response) :
    r.isSuccess = true ↔ CountsAsSuccess r.status := by
  unfold isSuccess CountsAsSuccess
  generalize r.status.toList = cs
  constructor
  · intro h
    match cs, h with
    | [c, d, e], h =>
        have hc : c = '2' := by simpa using h
        exact ⟨d, e, by rw [hc]⟩
  · rintro ⟨c, d, rfl⟩
    rfl

namespace Operation

variable {op : Operation}

/-- No success response is found exactly when no response counts as one. -/
theorem success?_eq_none_iff : op.success? = none
    ↔ ∀ r ∈ op.responses, ¬ CountsAsSuccess r.status := by
  unfold success?
  simp only [List.find?_eq_none, Response.isSuccess_iff]

/-- The one that is found is the first that counts. -/
theorem success?_eq_some_iff {s : Response} : op.success? = some s
    ↔ CountsAsSuccess s.status
      ∧ ∃ before after, op.responses = before ++ s :: after
        ∧ ∀ r ∈ before, ¬ CountsAsSuccess r.status := by
  unfold success?
  simp only [List.find?_eq_some_iff_append, Response.isSuccess_iff,
    Bool.not_eq_true', Bool.eq_false_iff, ne_eq]

end Operation

-- =============================================================== endings

/-- Two endings of one length are the same. -/
theorem EndsIn.eq_of_length {line a b : String} (ha : EndsIn line a)
    (hb : EndsIn line b) (hlength : a.toList.length = b.toList.length) :
    a = b := by
  obtain ⟨front, rfl⟩ := ha
  obtain ⟨front', hline⟩ := hb
  have hlist := congrArg String.toList hline
  rw [String.toList_append, String.toList_append] at hlist
  exact String.toList_inj.1 (List.append_inj' hlist hlength).2

/-- An ending of an ending. -/
theorem EndsIn.of_append {line a b : String} (h : EndsIn line (a ++ b)) :
    EndsIn line b := by
  obtain ⟨front, rfl⟩ := h
  exact ⟨front ++ a, (String.append_assoc ..).symm⟩

/-- No line names a success status and says that there is no block: behind
the `2` of the status only two characters are left. -/
theorem not_endsIn_both {line status : String}
    (hstatus : CountsAsSuccess status)
    (hon : EndsIn line ("decoder on " ++ status)) :
    ¬ EndsIn line "no decoder block" := by
  intro hnone
  obtain ⟨c, d, hlist⟩ := hstatus
  have hending : "no decoder bl" ++ "ock" = "no decoder block" := by decide
  have hock : EndsIn line "ock" := EndsIn.of_append (hending ▸ hnone)
  have heq := hon.of_append.eq_of_length hock (by rw [hlist]; rfl)
  rw [heq] at hlist
  cases hlist

-- ========================================================= one operation

namespace Operation

variable {op : Operation}

theorem endsIn_summary_of_none (h : op.success? = none) :
    EndsIn op.summary "no decoder block" := by
  unfold summary
  rw [h]
  exact ⟨_, rfl⟩

theorem endsIn_summary_of_success {s : Response} (h : op.success? = some s) :
    EndsIn op.summary ("decoder on " ++ s.status) := by
  unfold summary
  rw [h]
  exact ⟨_, rfl⟩

theorem Accepted.hasNoBlock (h : op.Accepted) (hnone : op.success? = none) :
    op.HasNoBlock where
  responses := success?_eq_none_iff.1 hnone
  block := DecoderBlock.ofResponses?_eq_none_iff.2 hnone
  code := by
    have htext : op.codeText true = op.codeText false :=
      codeText_of_no_success hnone true
    rw [h.code_result true, htext]
    exact ⟨rfl, h.code_result false⟩
  summary := endsIn_summary_of_none hnone
  summary_only status hstatus hon :=
    not_endsIn_both hstatus hon (endsIn_summary_of_none hnone)

theorem Accepted.hasBlockOn (h : op.Accepted) {s : Response}
    (hs : op.success? = some s) :
    op.HasBlockOn s ⟨DecoderNames.ofId op.id, op.responses, s⟩ := by
  have hblock : DecoderBlock.ofResponses? op.id op.responses
      = some ⟨DecoderNames.ofId op.id, op.responses, s⟩ :=
    DecoderBlock.ofResponses?_of_find? hs
  obtain ⟨hsuccess, hfirst⟩ := success?_eq_some_iff.1 hs
  have hsummary := endsIn_summary_of_success hs
  refine
    { success := hsuccess
      first := hfirst
      block := hblock
      status := rfl
      code := ⟨?_, h.code_result false⟩
      text_ne_empty := DecoderBlock.text_ne_empty _
      function := ?_
      bareStatus := rfl
      testedStatus := rfl
      overrideStatus := rfl
      summary := fun status hstatus => ⟨fun hon => ?_, fun heq => ?_⟩
      summary_only := not_endsIn_both hsuccess hsummary }
  · rw [h.code_result true, codeText_of_block hblock]
    rfl
  · unfold DecoderBlock.decoderFunction
    rw [DecoderBlock.signature_eq, DecoderBlock.overrideTest_eq,
      DecoderBlock.mergedTypes_eq]
  · -- both statuses are the last three characters of the line
    obtain ⟨c, d, hlist⟩ := hstatus
    obtain ⟨c', d', hlist'⟩ := hsuccess
    exact hon.of_append.eq_of_length hsummary.of_append
      (by rw [hlist, hlist']; rfl)
  · rw [heq]
    exact hsummary

end Operation

-- ================================================ a list of operations

theorem OperationSet.countsChanged {entries : List (Option Operation)}
    {options : AssemblyOptions} {set : OperationSet}
    (h : (ofEntries entries options).result = .ok set) :
    set.CountsChanged entries options := by
  obtain ⟨haccepted, -, hoperations, hblocks⟩ := ofEntries_result_eq_ok.1 h
  constructor
  · refine ⟨⟨_, _, 0⟩,
      ofEntries_result_eq_ok.2 ⟨haccepted, rfl, rfl, rfl⟩, ?_, ?_⟩
    · rw [hoperations, List.length_map, List.length_map]
    · rw [hblocks, hoperations, countP_changed]
  · intro hoff
    rw [hblocks, hoff]
    rfl

/-- For an accepted operation all places agree on whether there is a decoder
block and on which status, and for a list of operations with code the blocks
are counted where the decoders have changed the code. -/
theorem decoder_decisions_agree :
    (∀ op : Operation, op.Accepted →
      (op.success? = none → op.HasNoBlock)
        ∧ ∀ s, op.success? = some s → ∃ b, op.HasBlockOn s b)
      ∧ ∀ (entries : List (Option Operation)) (options : AssemblyOptions)
        (set : OperationSet),
        (OperationSet.ofEntries entries options).result = .ok set →
          set.CountsChanged entries options := by
  constructor
  · intro op haccepted
    exact ⟨haccepted.hasNoBlock, fun s hs => ⟨_, haccepted.hasBlockOn hs⟩⟩
  · intro entries options set h
    exact OperationSet.countsChanged h

theorem tangled_decisions_agree :
    (∃ s b, Operation.tangled.HasBlockOn s b)
      ∧ { Operation.tangled with responses := [] }.HasNoBlock
      ∧ ∃ set, (OperationSet.ofEntries [some Operation.tangled, none]
          { decoders := true }).result = .ok set
        ∧ set.CountsChanged [some Operation.tangled, none]
          { decoders := true } := by
  have haccepted := Operation.tangled_accepted
  have hbare : { Operation.tangled with responses := [] }.Accepted := by
    rw [Operation.accepted_iff] at haccepted ⊢
    exact ⟨haccepted.1, haccepted.2.1, List.nodup_nil⟩
  obtain ⟨b, hb⟩ :=
    (decoder_decisions_agree.1 Operation.tangled haccepted).2 _ rfl
  obtain ⟨set, hset⟩ := OperationSet.exists_of_accepted
    [some Operation.tangled, none] { decoders := true } fun op hop => by
      rw [List.mem_singleton.1 hop]
      exact haccepted
  exact ⟨⟨_, b, hb⟩, (decoder_decisions_agree.1 _ hbare).1 rfl,
    set, hset, decoder_decisions_agree.2 _ _ _ hset⟩

end ApiContract
