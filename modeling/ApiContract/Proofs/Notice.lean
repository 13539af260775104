/-
Sequences of steps, taken apart one step at a time. What a sequence comes to
is decided by whether its first step has a result: then the notices of both
steps stand in order, else the rest is not reached. A sequence yields a
result exactly when its first step does and the rest does on that.
-/
import ApiContract.Notice

namespace ApiContract

theorem map_eq_ok {ε α β : Type} {x : Except ε α} {f : α → β} {b : β} :
    x.map f = .ok b ↔ ∃ a, x = .ok a ∧ f a = b := by
  cases x with
  | error e =>
      exact iff_of_false (fun h => by cases h) fun ⟨_, h, _⟩ => by cases h
  | ok a =>
      constructor
      · intro h
        cases h
        exact ⟨a, rfl, rfl⟩
      · rintro ⟨_, ha, rfl⟩
        cases ha
        rfl

theorem mapError_eq_ok {ε ε' α : Type} {x : Except ε α} {f : ε → ε'} {a : α} :
    x.mapError f = .ok a ↔ x = .ok a := by
  cases x with
  | error e => exact iff_of_false (fun h => by cases h) fun h => by cases h
  | ok b =>
      constructor
      · intro h
        cases h
        rfl
      · intro h
        cases h
        rfl

/-- Of steps without notices, too, a sequence yields a result exactly when
both of its steps do. -/
theorem bind_eq_ok {ε α β : Type} {x : Except ε α} {f : α → Except ε β}
    {b : β} : x >>= f = .ok b ↔ ∃ a, x = .ok a ∧ f a = .ok b := by
  cases x with
  | error e =>
      exact iff_of_false (fun h => by cases h) fun ⟨_, h, _⟩ => by cases h
  | ok a =>
      refine ⟨fun h => ⟨a, rfl, h⟩, ?_⟩
      rintro ⟨_, ha, h⟩
      cases ha
      exact h

namespace Logged

variable {ε α β : Type}

-- ====================================================== whole sequences

/-- A sequence whose first step has a result: the notices of both steps, and
what the rest comes to. -/
theorem bind_of_ok {x : Logged ε α} {f : α → Logged ε β} {a : α}
    (h : x.result = .ok a) :
    x >>= f = ⟨x.notices ++ (f a).notices, (f a).result⟩ := by
  show andThen x f = _
  unfold andThen
  rw [h]

/-- A sequence whose first step fails: the rest is not reached. -/
theorem bind_of_error {x : Logged ε α} {f : α → Logged ε β} {e : ε}
    (h : x.result = .error e) : x >>= f = ⟨x.notices, .error e⟩ := by
  show andThen x f = _
  unfold andThen
  rw [h]

-- ============================================================== results

theorem result_pure (a : α) : (pure a : Logged ε α).result = .ok a := rfl

theorem result_lift (r : Except ε α) : (lift r).result = r := rfl

/-- The result of a sequence, when the first step has one. -/
theorem result_bind_of_ok {x : Logged ε α} {f : α → Logged ε β} {a : α}
    (h : x.result = .ok a) : (x >>= f).result = (f a).result := by
  rw [bind_of_ok h]

/-- The result of a sequence is the sequence of the results. -/
theorem result_bind (x : Logged ε α) (f : α → Logged ε β) :
    (x >>= f).result = x.result >>= fun a => (f a).result := by
  cases hx : x.result with
  | ok a =>
      rw [result_bind_of_ok hx]
      rfl
  | error e =>
      rw [bind_of_error hx]
      rfl

/-- A sequence yields a result exactly when both of its steps do. -/
theorem result_bind_eq_ok {x : Logged ε α} {f : α → Logged ε β} {b : β} :
    (x >>= f).result = .ok b
      ↔ ∃ a, x.result = .ok a ∧ (f a).result = .ok b := by
  rw [result_bind]
  exact bind_eq_ok

end Logged

end ApiContract
