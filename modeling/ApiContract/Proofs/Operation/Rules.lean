/-
Which operations meet the rules: those whose id is an identifier, whose
parameter names have something beside the optional mark, and whose statuses
differ. The statuses are checked one by one against those seen before, so
the induction is over the responses with the seen ones left general.
-/
import ApiContract.Operation.Rules
import ApiContract.Proofs.Notice

namespace ApiContract.Operation

/-- The operation meets all rules. -/
def Accepted (op : Operation) : Prop := op.check.result = .ok ()

-- ============================================================= statuses

/-- The statuses pass exactly when they differ from each other and from all
that were seen before. -/
theorem checkStatuses_result_eq_ok (id : String) (rs : List Response) :
    ∀ seen : List String, (checkStatuses id seen rs).result = .ok ()
      ↔ (rs.map Response.status).Nodup ∧ ∀ r ∈ rs, r.status ∉ seen := by
  induction rs with
  | nil =>
      intro seen
      exact ⟨fun _ => ⟨List.nodup_nil, fun r hr => by cases hr⟩, fun _ => rfl⟩
  | cons r rest ih =>
      intro seen
      rw [List.map_cons, List.nodup_cons]
      unfold checkStatuses
      split
      case isTrue hseen =>
        rw [List.contains_iff_mem] at hseen
        constructor
        · intro h
          cases h
        · rintro ⟨-, hfresh⟩
          exact absurd hseen (hfresh r (List.mem_cons_self ..))
      case isFalse hseen =>
        rw [List.contains_iff_mem] at hseen
        show (checkStatuses id (r.status :: seen) rest).result = .ok () ↔ _
        rw [ih]
        constructor
        · rintro ⟨hnodup, hfresh⟩
          refine ⟨⟨fun hmem => ?_, hnodup⟩, fun x hx => ?_⟩
          · obtain ⟨x, hx, hstatus⟩ := List.mem_map.1 hmem
            exact hfresh x hx (by rw [hstatus]; exact List.mem_cons_self ..)
          · rcases List.mem_cons.1 hx with rfl | hx
            · exact hseen
            · exact fun hmem => hfresh x hx (List.mem_cons_of_mem _ hmem)
        · rintro ⟨⟨hr, hnodup⟩, hfresh⟩
          refine ⟨hnodup, fun x hx hmem => ?_⟩
          rcases List.mem_cons.1 hmem with heq | hmem
          · exact hr (List.mem_map.2 ⟨x, hx, heq⟩)
          · exact hfresh x (List.mem_cons_of_mem _ hx) hmem

-- ============================================================ all rules

theorem checkId_eq_ok_iff {id : String} :
    checkId id = .ok () ↔ isIdentifier id = true := by
  unfold checkId
  split <;> simp_all

/-- An operation is accepted exactly when its id is an identifier, no
parameter name is empty without the mark, and its statuses differ. -/
theorem accepted_iff (op : Operation) : op.Accepted
    ↔ isIdentifier op.id = true
      ∧ (∀ p ∈ op.parameters, p.propertyName ≠ "")
      ∧ (op.responses.map Response.status).Nodup := by
  have hparameters : op.checkParameters = .ok ()
      ↔ ∀ p ∈ op.parameters, p.propertyName ≠ "" := by
    unfold checkParameters
    split <;> simp_all
  have hstatuses : op.checkResponses.result = .ok ()
      ↔ (op.responses.map Response.status).Nodup := by
    unfold checkResponses
    rw [checkStatuses_result_eq_ok]
    simp
  unfold Accepted check
  simp only [Logged.result_bind_eq_ok, Logged.result_lift]
  rw [← checkId_eq_ok_iff, ← hparameters, ← hstatuses]
  constructor
  · rintro ⟨⟨⟩, hi, ⟨⟩, hp, hs⟩
    exact ⟨hi, hp, hs⟩
  · rintro ⟨hi, hp, hs⟩
    exact ⟨(), hi, (), hp, hs⟩

-- ============================================================== sample

/-- An accepted operation whose names hold quotes, backslashes, line breaks,
the marks of comments and brackets. -/
def tangled : Operation where
  method := .get
  id := "listFiles"
  parameters :=
    [⟨"*/ \"li?m(it\\", "Array<[number, (string)]>", .query, none⟩,
      ⟨Text.openBrace ++ "//\n", Text.braced " a: string ", .header, none⟩]
  responses :=
    [⟨"404", "undefined", ["\"", "\\", "/*"]⟩,
      ⟨"2ab", Text.braced " [k: string]: (Thing)[] ",
        ["X-\r\n\"]" ++ Text.closeBrace]⟩,
      ⟨"500", "Error", []⟩]
  headers := ["a\"b", "'`", ")\\"]
  path := "/files/*"

theorem tangled_accepted : tangled.Accepted :=
  (accepted_iff tangled).2 ⟨by decide, by decide +kernel, by decide⟩

end ApiContract.Operation
