/-
The code of a list of operations: there is one exactly when every operation
is accepted, and it is then the code of each, in order. A set counts its
decoder blocks on the operations; that is the number of operation texts that
the decoders have changed, since an operation's text changes exactly when a
response counts as a success.
-/
import ApiContract.OperationSet
import ApiContract.Proofs.Operation.Code

namespace ApiContract

-- ============================================================= imports

theorem insertName_ne_nil (name : String) (names : List String) :
    insertName name names ≠ [] := by
  cases names with
  | nil => exact List.cons_ne_nil name []
  | cons n ns =>
      unfold insertName
      split
      · exact List.cons_ne_nil name (n :: ns)
      · split
        · exact List.cons_ne_nil n _
        · exact List.cons_ne_nil n ns

theorem sortedNames_eq_nil_iff {names : List String} :
    sortedNames names = [] ↔ names = [] := by
  unfold sortedNames
  cases names.eq_nil_or_concat with
  | inl h =>
      rw [h]
      exact iff_of_true rfl rfl
  | inr h =>
      obtain ⟨before, name, rfl⟩ := h
      rw [List.concat_eq_append, List.foldl_append]
      exact iff_of_false (insertName_ne_nil _ _)
        (List.append_ne_nil_of_right_ne_nil before (List.cons_ne_nil name []))

/-- Nothing is imported exactly when no operation refers to a type. -/
theorem importedTypes_eq_nil_iff {ops : List Operation} :
    importedTypes ops = [] ↔ ∀ op ∈ ops, op.importedTypes = [] := by
  unfold importedTypes
  rw [sortedNames_eq_nil_iff, List.flatMap_eq_nil_iff]

namespace OperationSet

-- =============================================================== codes

/-- A list has its code exactly when all its operations are accepted. -/
theorem codes_result_eq_ok {decoders : Bool} {ops : List Operation} :
    ∀ {texts : List String}, (codes decoders ops).result = .ok texts
      ↔ (∀ op ∈ ops, op.Accepted)
        ∧ texts = ops.map fun op => op.codeText decoders := by
  induction ops with
  | nil =>
      intro texts
      constructor
      · intro h
        cases h
        exact ⟨fun op hop => (List.not_mem_nil hop).elim, rfl⟩
      · rintro ⟨-, rfl⟩
        rfl
  | cons op rest ih =>
      intro texts
      unfold codes
      rw [List.forall_mem_cons, List.map_cons]
      constructor
      · intro h
        obtain ⟨code, hcode, h⟩ := Logged.result_bind_eq_ok.1 h
        obtain ⟨codes, hcodes, h⟩ := Logged.result_bind_eq_ok.1 h
        obtain ⟨hop, rfl⟩ := Operation.accepted_of_code_result hcode
        obtain ⟨hrest, rfl⟩ := ih.1 hcodes
        cases h
        exact ⟨⟨hop, hrest⟩, rfl⟩
      · rintro ⟨⟨hop, hrest⟩, rfl⟩
        rw [Logged.result_bind_of_ok (hop.code_result decoders),
          Logged.result_bind_of_ok (ih.2 ⟨hrest, rfl⟩)]
        rfl

-- ==================================================== whole list of codes

/-- A list of accepted operations has all its codes, and says what the check
of each operation says. -/
theorem codes_of_accepted {ops : List Operation}
    (h : ∀ op ∈ ops, op.Accepted) (decoders : Bool) :
    codes decoders ops = ⟨ops.flatMap fun op => op.check.notices,
      .ok (ops.map fun op => op.codeText decoders)⟩ := by
  induction ops with
  | nil => rfl
  | cons op rest ih =>
      obtain ⟨hop, hrest⟩ := List.forall_mem_cons.1 h
      unfold codes
      rw [hop.code_eq decoders, ih hrest, Logged.bind_of_ok rfl,
        Logged.bind_of_ok rfl]
      exact congrArg (Logged.mk · _) (by
        rw [List.flatMap_cons]
        exact congrArg _ (List.append_nil _))

/-- The first operation that breaks a rule fails the list, and nothing is
said behind its check. -/
theorem codes_of_rejected {before after : List Operation} {op : Operation}
    {v : Violation} (hbefore : ∀ p ∈ before, p.Accepted)
    (hop : op.check.result = .error v) (decoders : Bool) :
    codes decoders (before ++ op :: after)
      = ⟨(before ++ [op]).flatMap fun op => op.check.notices, .error v⟩ := by
  induction before with
  | nil =>
      show codes decoders (op :: after) = _
      unfold codes
      rw [Operation.code_of_rejected hop, Logged.bind_of_error rfl,
        List.nil_append, List.flatMap_singleton]
  | cons p rest ih =>
      obtain ⟨hp, hrest⟩ := List.forall_mem_cons.1 hbefore
      rw [List.cons_append, List.cons_append, List.flatMap_cons]
      unfold codes
      rw [hp.code_eq decoders, ih hrest, Logged.bind_of_ok rfl,
        Logged.bind_of_error rfl]

-- ================================================================= set

/-- A list of accepted operations makes a set. -/
theorem ofEntries_of_accepted {entries : List (Option Operation)}
    (h : ∀ op ∈ entries.filterMap id, op.Accepted)
    (options : AssemblyOptions) :
    ofEntries entries options
      = ⟨(entries.filterMap id).flatMap fun op => op.check.notices,
        .ok
          { imports := (importedTypes (entries.filterMap id)).map
              (importLine options.definitionsPath)
            operations := (entries.filterMap id).map
              fun op => op.codeText options.decoders
            decoderBlocks := if options.decoders then
              (entries.filterMap id).countP (·.success?.isSome) else 0 }⟩ := by
  unfold ofEntries
  dsimp only
  rw [codes_of_accepted h, Logged.bind_of_ok rfl]
  exact congrArg (Logged.mk · _) (List.append_nil _)

/-- The first present operation that breaks a rule fails the set. -/
theorem ofEntries_of_rejected {entries : List (Option Operation)}
    {before after : List Operation} {op : Operation} {v : Violation}
    (hpresent : entries.filterMap id = before ++ op :: after)
    (hbefore : ∀ p ∈ before, p.Accepted) (hop : op.check.result = .error v)
    (options : AssemblyOptions) :
    ofEntries entries options
      = ⟨(before ++ [op]).flatMap fun op => op.check.notices, .error v⟩ := by
  unfold ofEntries
  dsimp only
  rw [hpresent, codes_of_rejected hbefore hop, Logged.bind_of_error rfl]

/-- A set is written exactly when all present operations are accepted. -/
theorem ofEntries_result_eq_ok {entries : List (Option Operation)}
    {options : AssemblyOptions} {set : OperationSet} :
    (ofEntries entries options).result = .ok set
      ↔ (∀ op ∈ entries.filterMap id, op.Accepted)
        ∧ set.imports = (importedTypes (entries.filterMap id)).map
          (importLine options.definitionsPath)
        ∧ set.operations = (entries.filterMap id).map
          (fun op => op.codeText options.decoders)
        ∧ set.decoderBlocks = if options.decoders then
          (entries.filterMap id).countP (·.success?.isSome) else 0 := by
  unfold ofEntries
  constructor
  · intro h
    obtain ⟨texts, htexts, h⟩ := Logged.result_bind_eq_ok.1 h
    obtain ⟨haccepted, rfl⟩ := codes_result_eq_ok.1 htexts
    cases h
    exact ⟨haccepted, rfl, rfl, rfl⟩
  · rintro ⟨haccepted, himports, hoperations, hblocks⟩
    rw [Logged.result_bind_of_ok (codes_result_eq_ok.2 ⟨haccepted, rfl⟩)]
    cases set
    cases himports
    cases hoperations
    cases hblocks
    rfl

/-- Accepted operations make a set, whatever the options. -/
theorem exists_of_accepted (entries : List (Option Operation))
    (options : AssemblyOptions)
    (h : ∀ op ∈ entries.filterMap id, op.Accepted) :
    ∃ set, (ofEntries entries options).result = .ok set :=
  ⟨⟨_, _, _⟩, ofEntries_result_eq_ok.2 ⟨h, rfl, rfl, rfl⟩⟩

/-- The texts that differ from those without decoders are as many as the
decoder blocks that a set counts. -/
theorem countP_changed (decoders : Bool) (ops : List Operation) :
    ((ops.map fun op => op.codeText decoders).zip
        (ops.map fun op => op.codeText false)).countP
          (fun texts => texts.1 ≠ texts.2)
      = if decoders then ops.countP (·.success?.isSome) else 0 := by
  rw [List.zip_map', List.countP_map]
  cases decoders with
  | false =>
      show _ = 0
      rw [List.countP_eq_zero]
      intro op _
      simp only [Function.comp_apply, ne_eq, not_true_eq_false,
        decide_false, Bool.false_eq_true, not_false_eq_true]
  | true =>
      refine List.countP_congr fun op _ => ?_
      show decide (op.codeText true ≠ op.codeText false) = true ↔ _
      rw [decide_eq_true_iff, Operation.codeText_ne_iff]

end OperationSet

end ApiContract
