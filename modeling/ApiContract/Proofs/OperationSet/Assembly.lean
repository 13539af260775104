/-
Assembling an operation set is all or nothing, goes through the list from
left to right, and lays its pieces out with one blank line between each two.

# Failure

A list of operations either holds accepted ones only or splits at the first
one that breaks a rule (`all_accepted_or_firstRejected`). In the first case
assembling has a set, in the second it fails with that rule, and in both the
notices are those of the checks up to there. So whatever stands behind a
rejected operation has no say, which is why a list that fails hides what is
appended to it.

# Layout

The text of a set is chosen by testing joined texts for emptiness. That is
the same as testing the lists, because no piece is empty: an import line and
the code of an operation begin and end in fixed characters, none of them a
line break (`Text.FirmEdges`). For the same reason the line between two
pieces is the only blank one there.
-/
import ApiContract.Proofs.OperationSet

namespace ApiContract

-- ================================================== statement vocabulary

/-- The text has a first and a last character, neither of them a line
break. -/
structure Text.FirmEdges (s : String) : Prop where
  first : ∃ c, s.toList.head? = some c ∧ c ≠ '\n'
  last : ∃ c, s.toList.getLast? = some c ∧ c ≠ '\n'

namespace OperationSet

/-- `op` is the first operation of the list to break a rule, and `v` is what
it breaks; the operations before it are accepted. -/
structure FirstRejected (ops before : List Operation) (op : Operation)
    (v : Violation) : Prop where
  split : ∃ after, ops = before ++ op :: after
  accepted : ∀ p ∈ before, p.Accepted
  rejected : op.check.result = .error v

/-- All present operations make it into the set, or there is none. -/
structure AllOrNothing (entries : List (Option Operation))
    (options : AssemblyOptions) : Prop where
  succeeds : (∃ set, (ofEntries entries options).result = .ok set)
    ↔ ∀ op ∈ entries.filterMap id, op.Accepted
  fails : ∀ v, (ofEntries entries options).result = .error v
    ↔ ∃ before op, FirstRejected (entries.filterMap id) before op v
  /-- The checks have their say in order, up to the first that fails. -/
  notices : (∀ op ∈ entries.filterMap id, op.Accepted) →
    (ofEntries entries options).notices
      = (entries.filterMap id).flatMap fun op => op.check.notices
  notices_rejected : ∀ before op v,
    FirstRejected (entries.filterMap id) before op v →
      (ofEntries entries options).notices
        = (before ++ [op]).flatMap fun op => op.check.notices
  /-- The operation texts are those that each operation has by itself. -/
  operations : ∀ set, (ofEntries entries options).result = .ok set →
    (entries.filterMap id).map (fun op => (op.code options.decoders).result)
      = set.operations.map .ok

/-- A list behind another one adds its part to a set, or is not reached. -/
structure Compositional (xs ys : List (Option Operation))
    (options : AssemblyOptions) : Prop where
  joined : ∀ a b, (ofEntries xs options).result = .ok a →
    (ofEntries ys options).result = .ok b →
      ∃ c, (ofEntries (xs ++ ys) options).result = .ok c
        ∧ c.operations = a.operations ++ b.operations
        ∧ c.decoderBlocks = a.decoderBlocks + b.decoderBlocks
  parted : ∀ c, (ofEntries (xs ++ ys) options).result = .ok c →
    (∃ a, (ofEntries xs options).result = .ok a)
      ∧ ∃ b, (ofEntries ys options).result = .ok b
  /-- A failure in front is the whole outcome, notices included. -/
  hidden : ∀ v, (ofEntries xs options).result = .error v →
    ofEntries (xs ++ ys) options = ofEntries xs options

/-- The import lines as one piece, if there are any. -/
def importPiece (set : OperationSet) : List String :=
  if set.imports = [] then [] else ["\n".intercalate set.imports]

/-- The pieces stand one behind another with a blank line between each two,
and no piece brings a line break of its own to its edge. -/
structure LaidOut (set : OperationSet) : Prop where
  edges : ∀ piece ∈ set.imports ++ set.operations, Text.FirmEdges piece
  text : set.text = "\n\n".intercalate (set.importPiece ++ set.operations)

end OperationSet

-- ================================================================= edges

namespace Text

theorem FirmEdges.ne_empty {s : String} (h : FirmEdges s) : s ≠ "" := by
  rintro rfl
  obtain ⟨c, hc, -⟩ := h.first
  cases hc

/-- The edges of a text are those of its outer parts. -/
theorem FirmEdges.append {a c : String} (ha : FirmEdges a)
    (hc : FirmEdges c) (b : String) : FirmEdges (a ++ b ++ c) := by
  obtain ⟨x, hx, hxne⟩ := ha.first
  obtain ⟨y, hy, hyne⟩ := hc.last
  constructor
  · refine ⟨x, ?_, hxne⟩
    rw [String.toList_append, String.toList_append, List.append_assoc,
      List.head?_append, hx, Option.some_or]
  · refine ⟨y, ?_, hyne⟩
    rw [String.toList_append, List.getLast?_append, hy, Option.some_or]

/-- Pieces that are not empty leave no empty text when they are joined. -/
theorem isEmpty_intercalate {separator : String} {pieces : List String}
    (h : ∀ piece ∈ pieces, FirmEdges piece) :
    (separator.intercalate pieces).isEmpty = pieces.isEmpty := by
  cases pieces with
  | nil => rfl
  | cons piece rest =>
      have hne := (h piece (List.mem_cons_self ..)).ne_empty
      rw [List.isEmpty_cons, Bool.eq_false_iff, ne_eq, String.isEmpty_iff]
      intro hempty
      cases rest with
      | nil =>
          rw [String.intercalate_singleton] at hempty
          exact hne hempty
      | cons next rest =>
          rw [String.intercalate_cons_cons, String.append_eq_empty_iff,
            String.append_eq_empty_iff] at hempty
          exact hne hempty.1.1

end Text

theorem firmEdges_importLine (definitionsPath typeName : String) :
    Text.FirmEdges (importLine definitionsPath typeName) := by
  unfold importLine
  refine ⟨⟨'i', ?_, by decide⟩, ⟨';', ?_, by decide⟩⟩
  · simp only [String.toList_append, List.head?_append]
    rfl
  · rw [String.toList_append, List.getLast?_append]
    rfl

namespace Operation

theorem firmEdges_requestTypeText (op : Operation) :
    Text.FirmEdges op.requestTypeText := by
  unfold requestTypeText heading
  refine ⟨⟨'/', ?_, by decide⟩, ⟨';', ?_, by decide⟩⟩
  · simp only [String.toList_append, List.head?_append]
    rfl
  · rw [String.toList_append, List.getLast?_append]
    rfl

end Operation

theorem DecoderBlock.firmEdges_text (b : DecoderBlock) :
    Text.FirmEdges b.text := by
  unfold text
  simp only [String.intercalate_cons_cons, String.intercalate_singleton]
  unfold defaultResponses defaultDecoder
  refine ⟨⟨'e', ?_, by decide⟩, ⟨';', ?_, by decide⟩⟩
  · simp only [String.toList_append, List.head?_append]
    rfl
  · simp only [String.toList_append, List.getLast?_append]
    rfl

theorem Operation.firmEdges_codeText (op : Operation) (decoders : Bool) :
    Text.FirmEdges (op.codeText decoders) := by
  have hrequest := op.firmEdges_requestTypeText
  cases decoders with
  | false => exact hrequest
  | true =>
      cases hsuccess : op.success? with
      | none =>
          rw [codeText_of_no_success hsuccess]
          exact hrequest
      | some s =>
          rw [codeText_of_block (DecoderBlock.ofResponses?_of_find? hsuccess)]
          exact hrequest.append (DecoderBlock.firmEdges_text _) _

namespace OperationSet

-- =============================================================== failure

/-- A list holds accepted operations only, or has a first rejected one. -/
theorem all_accepted_or_firstRejected (ops : List Operation) :
    (∀ op ∈ ops, op.Accepted)
      ∨ ∃ before op v, FirstRejected ops before op v := by
  induction ops with
  | nil => exact .inl fun op hop => (List.not_mem_nil hop).elim
  | cons op rest ih =>
      cases hcheck : op.check.result with
      | error v =>
          exact .inr ⟨[], op, v, ⟨rest, rfl⟩,
            fun p hp => (List.not_mem_nil hp).elim, hcheck⟩
      | ok u =>
          have hop : op.Accepted := hcheck
          rcases ih with hall | ⟨before, r, v, ⟨after, rfl⟩, hbefore, hr⟩
          · exact .inl (List.forall_mem_cons.2 ⟨hop, hall⟩)
          · exact .inr ⟨op :: before, r, v, ⟨after, rfl⟩,
              List.forall_mem_cons.2 ⟨hop, hbefore⟩, hr⟩

variable {entries : List (Option Operation)} {options : AssemblyOptions}

theorem FirstRejected.ofEntries_eq {before : List Operation} {op : Operation}
    {v : Violation} (h : FirstRejected (entries.filterMap id) before op v) :
    ofEntries entries options
      = ⟨(before ++ [op]).flatMap fun op => op.check.notices, .error v⟩ := by
  obtain ⟨after, hsplit⟩ := h.split
  exact ofEntries_of_rejected hsplit h.accepted h.rejected options

/-- With something behind the list, the first rejected operation is the
same. -/
theorem FirstRejected.append {ops before : List Operation} {op : Operation}
    {v : Violation} (h : FirstRejected ops before op v)
    (others : List Operation) : FirstRejected (ops ++ others) before op v := by
  obtain ⟨after, rfl⟩ := h.split
  refine ⟨⟨after ++ others, ?_⟩, h.accepted, h.rejected⟩
  rw [List.append_assoc, List.cons_append]

/-- An assembly that fails does so on the first rejected operation. -/
theorem firstRejected_of_error {v : Violation}
    (h : (ofEntries entries options).result = .error v) :
    ∃ before op, FirstRejected (entries.filterMap id) before op v := by
  rcases all_accepted_or_firstRejected (entries.filterMap id) with
    hall | ⟨before, op, w, hfirst⟩
  · rw [ofEntries_of_accepted hall] at h
    cases h
  · rw [hfirst.ofEntries_eq] at h
    cases h
    exact ⟨before, op, hfirst⟩

theorem allOrNothing (entries : List (Option Operation))
    (options : AssemblyOptions) : AllOrNothing entries options where
  succeeds := by
    constructor
    · rintro ⟨set, hset⟩
      exact (ofEntries_result_eq_ok.1 hset).1
    · exact exists_of_accepted entries options
  fails v := by
    constructor
    · exact firstRejected_of_error
    · rintro ⟨before, op, hfirst⟩
      rw [hfirst.ofEntries_eq]
  notices hall := by rw [ofEntries_of_accepted hall]
  notices_rejected before op v hfirst := by rw [hfirst.ofEntries_eq]
  operations set hset := by
    obtain ⟨hall, -, hoperations, -⟩ := ofEntries_result_eq_ok.1 hset
    rw [hoperations, List.map_map]
    exact List.map_congr_left fun op hop =>
      (hall op hop).code_result options.decoders

-- =========================================================== composition

theorem compositional (xs ys : List (Option Operation))
    (options : AssemblyOptions) : Compositional xs ys options where
  joined a b ha hb := by
    obtain ⟨hxs, -, haops, hablocks⟩ := ofEntries_result_eq_ok.1 ha
    obtain ⟨hys, -, hbops, hbblocks⟩ := ofEntries_result_eq_ok.1 hb
    have hall : ∀ op ∈ (xs ++ ys).filterMap id, op.Accepted := by
      rw [List.filterMap_append, List.forall_mem_append]
      exact ⟨hxs, hys⟩
    obtain ⟨c, hc⟩ := exists_of_accepted (xs ++ ys) options hall
    obtain ⟨-, -, hcops, hcblocks⟩ := ofEntries_result_eq_ok.1 hc
    refine ⟨c, hc, ?_, ?_⟩
    · rw [hcops, haops, hbops, List.filterMap_append, List.map_append]
    · rw [hcblocks, hablocks, hbblocks, List.filterMap_append,
        List.countP_append]
      split <;> rfl
  parted c hc := by
    have hall := (ofEntries_result_eq_ok.1 hc).1
    rw [List.filterMap_append, List.forall_mem_append] at hall
    exact ⟨exists_of_accepted xs options hall.1,
      exists_of_accepted ys options hall.2⟩
  hidden v hv := by
    obtain ⟨before, op, hfirst⟩ := firstRejected_of_error hv
    have hjoined : FirstRejected ((xs ++ ys).filterMap id) before op v := by
      rw [List.filterMap_append]
      exact hfirst.append _
    rw [hfirst.ofEntries_eq, hjoined.ofEntries_eq]

-- ================================================================ layout

/-- Where no piece is empty, the text tests for what is there. -/
theorem text_eq_of_firmEdges {set : OperationSet}
    (himports : ∀ line ∈ set.imports, Text.FirmEdges line)
    (hoperations : ∀ code ∈ set.operations, Text.FirmEdges code) :
    set.text = "\n\n".intercalate (set.importPiece ++ set.operations) := by
  unfold text importPiece
  dsimp only
  rw [Text.isEmpty_intercalate himports, Text.isEmpty_intercalate hoperations]
  cases set.imports with
  | nil => rfl
  | cons line lines =>
      rw [List.isEmpty_cons, if_neg Bool.false_ne_true,
        if_neg (List.cons_ne_nil line lines)]
      cases set.operations with
      | nil => exact String.intercalate_singleton.symm
      | cons code codes =>
          rw [List.isEmpty_cons, if_neg Bool.false_ne_true,
            List.singleton_append, String.intercalate_cons_cons]

theorem laidOut_of_ofEntries {set : OperationSet}
    (h : (ofEntries entries options).result = .ok set) : set.LaidOut := by
  obtain ⟨-, himports, hoperations, -⟩ := ofEntries_result_eq_ok.1 h
  have hlines : ∀ line ∈ set.imports, Text.FirmEdges line := by
    rw [himports, List.forall_mem_map]
    exact fun name _ => firmEdges_importLine options.definitionsPath name
  have hcodes : ∀ code ∈ set.operations, Text.FirmEdges code := by
    rw [hoperations, List.forall_mem_map]
    exact fun op _ => op.firmEdges_codeText options.decoders
  exact ⟨List.forall_mem_append.2 ⟨hlines, hcodes⟩,
    text_eq_of_firmEdges hlines hcodes⟩

-- ============================================================== assembly

/-- Assembling a list of entries is all or nothing and compositional, and
lays a set out with one blank line between its pieces. -/
theorem assembly_all_or_nothing :
    (∀ entries options, AllOrNothing entries options)
      ∧ (∀ xs ys options, Compositional xs ys options)
      ∧ ∀ entries options set, (ofEntries entries options).result = .ok set →
        set.LaidOut := by
  refine ⟨allOrNothing, compositional, fun entries options set h => ?_⟩
  exact laidOut_of_ofEntries h

/-- An operation that states a status of one digit twice. -/
def stuttering : Operation where
  method := .put
  id := "stutter"
  responses :=
    [⟨"5", "Error", []⟩, ⟨"204", "undefined", []⟩, ⟨"5", "Thing", []⟩]

theorem stuttering_check : stuttering.check
    = ⟨[.oddStatus "stutter" "5"], .error (.duplicateStatus "stutter" "5")⟩ :=
  rfl

theorem stuttering_assembly :
    (∃ set, (ofEntries [none, some Operation.tangled] {}).result = .ok set
      ∧ set.LaidOut
      ∧ [(Operation.tangled.code true).result] = set.operations.map .ok
      ∧ ∃ both, (ofEntries ([none, some Operation.tangled]
          ++ [none, some Operation.tangled]) {}).result = .ok both
        ∧ both.decoderBlocks = set.decoderBlocks + set.decoderBlocks)
      ∧ (ofEntries [none, some stuttering] {}).result
        = .error (.duplicateStatus "stutter" "5")
      ∧ (ofEntries [none, some stuttering] {}).notices
        = [.oddStatus "stutter" "5"]
      ∧ ofEntries ([none, some stuttering] ++ [some Operation.tangled]) {}
        = ofEntries [none, some stuttering] {} := by
  obtain ⟨hwhole, hparts, hlayout⟩ := assembly_all_or_nothing
  have hfirst : FirstRejected ([none, some stuttering].filterMap id) []
      stuttering (.duplicateStatus "stutter" "5") := by
    refine ⟨⟨[], rfl⟩, fun p hp => (List.not_mem_nil hp).elim, ?_⟩
    rw [stuttering_check]
  have hfails := ((hwhole [none, some stuttering] {}).fails _).2
    ⟨[], stuttering, hfirst⟩
  constructor
  · obtain ⟨set, hset⟩ := (hwhole [none, some Operation.tangled] {}).succeeds.2
      fun op hop => by
        rw [List.mem_singleton.1 hop]
        exact Operation.tangled_accepted
    obtain ⟨both, hboth, -, hblocks⟩ :=
      (hparts _ _ {}).joined set set hset hset
    exact ⟨set, hset, hlayout _ _ _ hset, (hwhole _ {}).operations set hset,
      both, hboth, hblocks⟩
  · refine ⟨hfails, ?_, (hparts _ _ {}).hidden _ hfails⟩
    rw [(hwhole _ {}).notices_rejected [] stuttering _ hfirst]
    rfl

end OperationSet

end ApiContract
