import AnnotatedSql.Failure.Basic
import AnnotatedSql.Proofs.Outcome

/-!
# Foreign failures

A failure is foreign when its kind is none of the library's own. Steps that run one after another
fail so at the first step that does.
-/

set_option autoImplicit false

namespace AnnotatedSql

/-- A computation fails with a failure that is none of the library's own. -/
def FailsForeign {α : Type} (outcome : Except Failure α) : Prop :=
  ∃ e, outcome = .error e ∧ e.kind.isLibrary = false

/-- A result is no failure. -/
@[simp] theorem not_failsForeign_ok {α : Type} (a : α) :
    ¬ FailsForeign (.ok a : Except Failure α) := by
  rintro ⟨e, h, _⟩
  cases h

/-- A failure is foreign by its kind. -/
@[simp] theorem failsForeign_error {α : Type} (e : Failure) :
    FailsForeign (.error e : Except Failure α) ↔ e.kind.isLibrary = false := by
  constructor
  · rintro ⟨_, h, hkind⟩
    cases h
    exact hkind
  · intro hkind
    exact ⟨e, rfl, hkind⟩

instance {α : Type} : (outcome : Except Failure α) → Decidable (FailsForeign outcome)
  | .ok a => .isFalse (not_failsForeign_ok a)
  | .error e => decidable_of_iff _ (failsForeign_error e).symm

/-- Two steps fail foreign when the first does, or when the second does after the first. -/
theorem failsForeign_bind {α β : Type} (first : Except Failure α) (next : α → Except Failure β) :
    FailsForeign (first >>= next) ↔
      FailsForeign first ∨ ∃ a, first = .ok a ∧ FailsForeign (next a) := by
  cases first with
  | error e => simp [Bind.bind, Except.bind]
  | ok a => simp [Bind.bind, Except.bind]

/-- Every problem with a statement makes a failure of the library's own. -/
theorem isLibrary_ofCompileError (e : CompileError) :
    (Failure.ofCompileError e).kind.isLibrary = true := by
  change e.problem.kind.isLibrary = true
  cases e.problem <;> rfl

/-- A computation that finds at most a problem with a statement does not fail foreign. -/
theorem not_failsForeign_mapError {α : Type} (outcome : Except CompileError α) :
    ¬ FailsForeign (outcome.mapError Failure.ofCompileError) := by
  cases outcome with
  | ok a => exact not_failsForeign_ok a
  | error e => simp [Outcome.mapError_error, isLibrary_ofCompileError]

end AnnotatedSql
