import Mathlib.Tactic.Basic

/-!
# Outcomes

A computation has a result or an error. What is known of the steps of a computation that has a
result, or whose steps all have one.
-/

set_option autoImplicit false

namespace AnnotatedSql.Outcome

variable {α β ε ε' : Type}

/-- Two steps have a result when the first has one, and the second after it. -/
theorem bind_eq_ok_iff {first : Except ε α} {next : α → Except ε β} {b : β} :
    first >>= next = .ok b ↔ ∃ a, first = .ok a ∧ next a = .ok b := by
  cases first with
  | error e => simp [Bind.bind, Except.bind]
  | ok a => simp [Bind.bind, Except.bind]

/-- A changed result comes from a result. -/
theorem map_eq_ok_iff {outcome : Except ε α} {f : α → β} {b : β} :
    outcome.map f = .ok b ↔ ∃ a, outcome = .ok a ∧ f a = b := by
  cases outcome with
  | error e => simp [Except.map]
  | ok a => simp [Except.map]

/-- Changing the result leaves an error as it is. -/
theorem map_eq_error_iff {outcome : Except ε α} {f : α → β} {e : ε} :
    outcome.map f = .error e ↔ outcome = .error e := by
  cases outcome with
  | error e' => simp [Except.map]
  | ok a => simp [Except.map]

/-- The result stays when errors are changed. -/
theorem mapError_ok (f : ε → ε') (a : α) : (Except.ok a : Except ε α).mapError f = .ok a := rfl

/-- An error is changed. -/
theorem mapError_error (f : ε → ε') (e : ε) :
    (Except.error e : Except ε α).mapError f = .error (f e) := rfl

/-- There is a result with changed errors when there is one without. -/
theorem mapError_eq_ok_iff {outcome : Except ε α} {f : ε → ε'} {a : α} :
    outcome.mapError f = .ok a ↔ outcome = .ok a := by
  cases outcome with
  | error e => simp [mapError_error]
  | ok b => simp [mapError_ok]

/-- A walk over a list that succeeds on every element gives the results in order. -/
theorem mapM_eq_ok {f : α → Except ε β} {g : α → β} {list : List α}
    (h : ∀ a ∈ list, f a = .ok (g a)) : list.mapM f = .ok (list.map g) := by
  induction list with
  | nil => rfl
  | cons a rest ih =>
    rw [List.mapM_cons, h a List.mem_cons_self, ih fun b hb => h b (List.mem_cons_of_mem _ hb)]
    rfl

end AnnotatedSql.Outcome
