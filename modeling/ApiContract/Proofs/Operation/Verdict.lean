/-
What the check of an operation comes to, notices included. There are four
verdicts, told apart by the rules alone (`Judged`): the id is no identifier;
else some parameter has no name; else some status stands twice; else the
operation is accepted. The check comes to the verdict that the rules call for
(`check_eq_of_judged`), and to no other.

The first two rules give no notice. The third goes through the responses one
by one, and gives its notices on the way, so it is told by the responses that
it gets past: those in front of the first repeated status, whose statuses
differ (`checkStatuses_append`, the one induction here, over these responses
with the statuses seen before left general). Where statuses do not differ
there is such a first place, by the well-order of places.
-/
import Mathlib.Data.Nat.Find
import ApiContract.Proofs.Identifier.Pattern
import ApiContract.Proofs.Operation.Rules

namespace ApiContract

-- ================================================== statement vocabulary

/-- The name has a character that is not the optional mark. -/
def Parameter.IsNamed (p : Parameter) : Prop := ∃ c ∈ p.name.toList, c ≠ '?'

namespace Operation

/-- The statuses of the responses are pairwise distinct. -/
def StatusesDiffer (rs : List Response) : Prop :=
  rs.Pairwise fun a b => a.status ≠ b.status

/-- At a place stands a response with the status of an earlier one, and the
statuses in front of that place differ. -/
structure FirstRepeat (rs : List Response) (place : Nat) (r : Response) :
    Prop where
  here : rs[place]? = some r
  repeats : ∃ i < place, ∃ e, rs[i]? = some e ∧ e.status = r.status
  least : ∀ k < place, ∀ i < k, ∀ d e, rs[i]? = some d → rs[k]? = some e →
    d.status ≠ e.status

/-- One warning for each response whose status has not exactly three
characters, in order. -/
def oddNotices (id : String) (rs : List Response) : List Notice :=
  (rs.filter fun r => r.status.toList.length ≠ 3).map fun r =>
    .oddStatus id r.status

/-- The notices and the result that the rules call for. The first broken rule
decides, and the notices are those on the responses before it is broken. -/
inductive Judged (op : Operation) :
    List Notice → Except Violation Unit → Prop where
  | badId (id : ¬ Identifier.Matches op.id) :
      Judged op [] (.error (.badId op.id))
  | unnamed (id : Identifier.Matches op.id)
      (parameter : ∃ p ∈ op.parameters, ¬ p.IsNamed) :
      Judged op [] (.error (.emptyParameterName op.id))
  | repeated (id : Identifier.Matches op.id)
      (parameters : ∀ p ∈ op.parameters, p.IsNamed)
      {place : Nat} {r : Response} (first : FirstRepeat op.responses place r) :
      Judged op (oddNotices op.id (op.responses.take place))
        (.error (.duplicateStatus op.id r.status))
  | accepted (id : Identifier.Matches op.id)
      (parameters : ∀ p ∈ op.parameters, p.IsNamed)
      (statuses : StatusesDiffer op.responses) :
      Judged op (oddNotices op.id op.responses) (.ok ())

-- ========================================================== parameters

theorem propertyName_ne_empty_iff {p : Parameter} :
    p.propertyName ≠ "" ↔ p.IsNamed := by
  unfold Parameter.propertyName Parameter.IsNamed
  rw [ne_eq, ← String.toList_eq_nil_iff, String.toList_ofList,
    List.filter_eq_nil_iff]
  simp

theorem checkParameters_of_named {op : Operation}
    (h : ∀ p ∈ op.parameters, p.IsNamed) : op.checkParameters = .ok () := by
  unfold checkParameters
  rw [if_neg]
  simpa [propertyName_ne_empty_iff] using h

theorem checkParameters_of_unnamed {op : Operation}
    (h : ∃ p ∈ op.parameters, ¬ p.IsNamed) :
    op.checkParameters = .error (.emptyParameterName op.id) := by
  unfold checkParameters
  rw [if_pos]
  simpa [← propertyName_ne_empty_iff] using h

-- ============================================================= statuses

/-- A warning for one response, if it earns one. -/
theorem oddNotices_cons (id : String) (r : Response) (rs : List Response) :
    oddNotices id (r :: rs)
      = (statusNotice? id r).toList ++ oddNotices id rs := by
  unfold oddNotices statusNotice?
  by_cases h : r.status.toList.length = 3 <;> simp [h]

/-- A status that was not seen before is passed, with the warning that it
earns, and is one of those seen before from then on. -/
theorem checkStatuses_cons {id : String} {seen : List String} {r : Response}
    (h : r.status ∉ seen) (rest : List Response) :
    checkStatuses id seen (r :: rest)
      = ⟨(statusNotice? id r).toList
          ++ (checkStatuses id (r.status :: seen) rest).notices,
        (checkStatuses id (r.status :: seen) rest).result⟩ := by
  rw [checkStatuses, if_neg (mt List.contains_iff_mem.1 h)]
  rfl

/-- Responses with statuses of their own are passed, with their warnings. -/
theorem checkStatuses_append (id : String) {before : List Response}
    (rest : List Response) (hdiffer : StatusesDiffer before) :
    ∀ seen : List String, (∀ e ∈ before, e.status ∉ seen) →
      ∃ seen', (∀ s, s ∈ seen' ↔ s ∈ before.map Response.status ∨ s ∈ seen)
        ∧ checkStatuses id seen (before ++ rest)
          = ⟨oddNotices id before ++ (checkStatuses id seen' rest).notices,
            (checkStatuses id seen' rest).result⟩ := by
  induction before with
  | nil =>
      intro seen _
      exact ⟨seen, fun s => by simp, rfl⟩
  | cons r before ih =>
      intro seen hfresh
      obtain ⟨hr, hdiffer⟩ := List.pairwise_cons.1 hdiffer
      obtain ⟨hunseen, hfresh⟩ := List.forall_mem_cons.1 hfresh
      have hfresh' : ∀ e ∈ before, e.status ∉ r.status :: seen := by
        intro e he hmem
        rcases List.mem_cons.1 hmem with hsame | hmem
        · exact hr e he hsame.symm
        · exact hfresh e he hmem
      obtain ⟨seen', hseen', hrest⟩ := ih hdiffer _ hfresh'
      refine ⟨seen', fun s => ?_, ?_⟩
      · rw [hseen', List.map_cons, List.mem_cons, List.mem_cons, or_assoc,
          or_left_comm]
      · rw [List.cons_append, checkStatuses_cons hunseen, hrest,
          oddNotices_cons, List.append_assoc]

theorem checkResponses_of_differ {op : Operation}
    (h : StatusesDiffer op.responses) :
    op.checkResponses = ⟨oddNotices op.id op.responses, .ok ()⟩ := by
  obtain ⟨seen, -, hcheck⟩ := checkStatuses_append op.id [] h []
    fun e _ => List.not_mem_nil
  rw [List.append_nil] at hcheck
  unfold checkResponses
  rw [hcheck]
  exact congrArg (Logged.mk · _) (List.append_nil _)

-- ========================================================= first repeat

/-- In front of the first repeated status all statuses differ. -/
theorem FirstRepeat.differ_before {rs : List Response} {place : Nat}
    {r : Response} (h : FirstRepeat rs place r) :
    StatusesDiffer (rs.take place) := by
  unfold StatusesDiffer
  rw [List.pairwise_iff_getElem]
  intro i k hi hk hik
  rw [List.length_take] at hi hk
  rw [List.getElem_take, List.getElem_take]
  have hd : rs[i]? = some rs[i] := List.getElem?_eq_getElem (by omega)
  have he : rs[k]? = some rs[k] := List.getElem?_eq_getElem (by omega)
  exact h.least k (by omega) i hik _ _ hd he

/-- Where statuses do not differ, one is the first to be repeated. -/
theorem exists_firstRepeat {rs : List Response} (h : ¬ StatusesDiffer rs) :
    ∃ place r, FirstRepeat rs place r := by
  classical
  have hrepeat : ∃ place : Nat, ∃ r, rs[place]? = some r
      ∧ ∃ i < place, ∃ e, rs[i]? = some e ∧ e.status = r.status := by
    unfold StatusesDiffer at h
    rw [List.pairwise_iff_getElem] at h
    push Not at h
    obtain ⟨i, k, hi, hk, hik, hsame⟩ := h
    exact ⟨k, _, List.getElem?_eq_getElem hk, i, hik, _,
      List.getElem?_eq_getElem hi, hsame⟩
  obtain ⟨r, hr, hsame⟩ := Nat.find_spec hrepeat
  refine ⟨Nat.find hrepeat, r, hr, hsame, ?_⟩
  intro k hk i hik d e hd he heq
  exact Nat.find_min hrepeat hk ⟨e, he, i, hik, d, hd, heq⟩

theorem checkResponses_of_firstRepeat {op : Operation} {place : Nat}
    {r : Response} (h : FirstRepeat op.responses place r) :
    op.checkResponses = ⟨oddNotices op.id (op.responses.take place),
      .error (.duplicateStatus op.id r.status)⟩ := by
  obtain ⟨hlt, hr⟩ := List.getElem?_eq_some_iff.1 h.here
  have hsplit : op.responses = op.responses.take place
      ++ r :: op.responses.drop (place + 1) := by
    rw [← hr, ← List.drop_eq_getElem_cons hlt, List.take_append_drop]
  obtain ⟨i, hi, e, he, hsame⟩ := h.repeats
  have hmem : e ∈ op.responses.take place := by
    rw [List.mem_take_iff_getElem]
    obtain ⟨hlen, rfl⟩ := List.getElem?_eq_some_iff.1 he
    exact ⟨i, by omega, rfl⟩
  obtain ⟨seen, hseen, hcheck⟩ := checkStatuses_append op.id
    (r :: op.responses.drop (place + 1)) h.differ_before []
    fun e _ => List.not_mem_nil
  have hrepeat : seen.contains r.status = true :=
    List.contains_iff_mem.2
      ((hseen _).2 (.inl (List.mem_map.2 ⟨e, hmem, hsame⟩)))
  rw [← hsplit, checkStatuses, if_pos hrepeat] at hcheck
  unfold checkResponses
  rw [hcheck]
  exact congrArg (Logged.mk · _) (List.append_nil _)

-- =============================================================== verdict

/-- The check comes to a verdict that the rules call for. -/
theorem check_eq_of_judged {op : Operation} {notices : List Notice}
    {result : Except Violation Unit} (h : op.Judged notices result) :
    op.check = ⟨notices, result⟩ := by
  unfold check
  cases h with
  | badId hid =>
      rw [Identifier.checkId_of_not_matches hid]
      rfl
  | unnamed hid hparameter =>
      rw [Identifier.checkId_eq_ok_iff.2 hid,
        checkParameters_of_unnamed hparameter]
      rfl
  | repeated hid hparameters hfirst =>
      rw [Identifier.checkId_eq_ok_iff.2 hid,
        checkParameters_of_named hparameters,
        checkResponses_of_firstRepeat hfirst]
      rfl
  | accepted hid hparameters hstatuses =>
      rw [Identifier.checkId_eq_ok_iff.2 hid,
        checkParameters_of_named hparameters,
        checkResponses_of_differ hstatuses]
      rfl

/-- For every operation the rules call for some verdict. -/
theorem exists_judged (op : Operation) :
    ∃ notices result, op.Judged notices result := by
  by_cases hid : Identifier.Matches op.id
  case neg => exact ⟨_, _, .badId hid⟩
  by_cases hparameters : ∀ p ∈ op.parameters, p.IsNamed
  case neg =>
    push Not at hparameters
    exact ⟨_, _, .unnamed hid hparameters⟩
  by_cases hstatuses : StatusesDiffer op.responses
  case neg =>
    obtain ⟨place, r, hfirst⟩ := exists_firstRepeat hstatuses
    exact ⟨_, _, .repeated hid hparameters hfirst⟩
  exact ⟨_, _, .accepted hid hparameters hstatuses⟩

/-- The check accepts exactly the operations whose id is an identifier, whose
parameters have names and whose statuses differ. Whatever the operation is, it
comes to what the rules call for and to nothing else: the first broken rule is
the error, a repeated status is reported where it is first repeated, and the
warnings are those on the responses in front of it, or on all of them. -/
theorem check_judged (op : Operation) :
    (op.check.result = .ok () ↔ Identifier.Matches op.id
      ∧ (∀ p ∈ op.parameters, p.IsNamed) ∧ StatusesDiffer op.responses)
    ∧ ∀ notices result,
      op.check = ⟨notices, result⟩ ↔ op.Judged notices result := by
  have hverdict : ∀ notices result,
      op.check = ⟨notices, result⟩ ↔ op.Judged notices result := by
    refine fun notices result => ⟨fun hcheck => ?_, check_eq_of_judged⟩
    obtain ⟨notices', result', hjudged⟩ := op.exists_judged
    rw [check_eq_of_judged hjudged] at hcheck
    cases hcheck
    exact hjudged
  refine ⟨⟨fun hok => ?_, ?_⟩, hverdict⟩
  · have hjudged : op.Judged op.check.notices (.ok ()) :=
      (hverdict _ _).1 (by rw [← hok])
    generalize op.check.notices = notices at hjudged
    cases hjudged with
    | accepted hid hparameters hstatuses =>
        exact ⟨hid, hparameters, hstatuses⟩
  · rintro ⟨hid, hparameters, hstatuses⟩
    rw [check_eq_of_judged (.accepted hid hparameters hstatuses)]

/-- The second status that is repeated is not reported, nor is the warning on
the response behind the first one given. -/
example : check
    { method := .get, id := "getThing", responses :=
        [⟨"é1", "A", []⟩, ⟨"200", "B", []⟩, ⟨"é1", "C", []⟩, ⟨"200", "D", []⟩,
          ⟨"default", "E", []⟩] }
    = ⟨[.oddStatus "getThing" "é1"],
      .error (.duplicateStatus "getThing" "é1")⟩ := by
  rfl

end Operation

end ApiContract
