import AnnotatedSql.Engine.Run
import AnnotatedSql.Proofs.Outcome
import Mathlib.Data.List.Basic

/-!
# How runs end

A run after some events ends with an outcome and with events of its own, added to those before. The
lemmas here put the ends of runs together for each way of putting runs together.
-/

set_option autoImplicit false

namespace AnnotatedSql

namespace Run

variable {α β : Type}

/-- A run after some events ends with an outcome, having added some events. -/
def Ends (run : Run α) (events : List Event) (outcome : Except Failure α) (new : List Event) :
    Prop :=
  run events = (outcome, events ++ new)

variable {events new more : List Event} {outcome : Except Failure α} {e e' : Failure}

/-- A result is there at once. -/
theorem ends_result (a : α) (events : List Event) : (result a).Ends events (.ok a) [] := by
  simp [Ends, result]

/-- A failure is there at once. -/
theorem ends_fail (e : Failure) (events : List Event) :
    (fail e : Run α).Ends events (.error e) [] := by
  simp [Ends, fail]

/-- A computation without events ends with its outcome at once. -/
theorem ends_ofExcept (outcome : Except Failure α) (events : List Event) :
    (ofExcept outcome).Ends events outcome [] := by
  cases outcome with
  | ok a => exact ends_result a events
  | error e => exact ends_fail e events

/-- After a run that succeeds comes the next one. -/
theorem Ends.andThen {first : Run α} {next : α → Run β} {a : α} {last : Except Failure β}
    (hfirst : first.Ends events (.ok a) new) (hnext : (next a).Ends (events ++ new) last more) :
    (first >>= next).Ends events last (new ++ more) := by
  unfold Ends at hfirst hnext ⊢
  simp only [Bind.bind, Run.andThen, hfirst, hnext, List.append_assoc]

/-- After a run that fails comes nothing. -/
theorem Ends.stop {first : Run α} {next : α → Run β} (h : first.Ends events (.error e) new) :
    (first >>= next).Ends events (.error e) new := by
  unfold Ends at h ⊢
  simp only [Bind.bind, Run.andThen, h]

/-- A result may be given in place of that of a run. -/
theorem Ends.giving {run : Run α} (h : run.Ends events outcome new) (b : β) :
    (run >>= fun _ => result b).Ends events (outcome.map fun _ => b) new := by
  cases outcome with
  | error e => exact h.stop
  | ok a =>
    have hboth : (run >>= fun _ => result b).Ends events (.ok b) (new ++ []) :=
      h.andThen (ends_result b (events ++ new))
    rwa [List.append_nil] at hboth

/-- Two runs one after another have a result when the first has one, and the second after it. -/
theorem bind_eq_ok_iff {first : Run α} {next : α → Run β} {b : β} :
    ((first >>= next) events).1 = .ok b ↔
      ∃ a, (first events).1 = .ok a ∧ (next a (first events).2).1 = .ok b := by
  simp only [Bind.bind, Run.andThen]
  rcases first events with ⟨_ | a, later⟩
  · simp
  · simp

/-- A run in which nothing happens has its result. -/
theorem pure_eq_ok_iff {a b : α} : ((pure a : Run α) events).1 = .ok b ↔ a = b := by
  simp [Pure.pure, result]

/-- A computation without events has its result as a run. -/
theorem ofExcept_eq_ok_iff {outcome : Except Failure α} {a : α} :
    (ofExcept outcome events).1 = .ok a ↔ outcome = .ok a := by
  cases outcome with
  | ok b => simp [ofExcept, result]
  | error e => simp [ofExcept, fail]

/-- An action that is done in any case and succeeds leaves the outcome as it is. -/
theorem Ends.ensuring {run : Run α} {action : Run Unit} (h : run.Ends events outcome new)
    (haction : action.Ends (events ++ new) (.ok ()) more) :
    (run.ensuring action).Ends events outcome (new ++ more) := by
  unfold Ends at h haction ⊢
  simp only [Run.ensuring, h, haction, List.append_assoc]

/-- An action that is done in any case and fails makes the whole fail. -/
theorem Ends.ensuring_error {run : Run α} {action : Run Unit} (h : run.Ends events outcome new)
    (haction : action.Ends (events ++ new) (.error e) more) :
    (run.ensuring action).Ends events (.error e) (new ++ more) := by
  unfold Ends at h haction ⊢
  simp only [Run.ensuring, h, haction, List.append_assoc]

/-- An action that is done after a failure is not done after a result. -/
theorem Ends.onFailure_ok {run : Run α} {a : α} (h : run.Ends events (.ok a) new)
    (action : Run Unit) : (run.onFailure action).Ends events (.ok a) new := by
  unfold Ends at h ⊢
  simp only [Run.onFailure, h]

/-- An action that is done after a failure and succeeds leaves the failure as it is. -/
theorem Ends.onFailure {run : Run α} {action : Run Unit} (h : run.Ends events (.error e) new)
    (haction : action.Ends (events ++ new) (.ok ()) more) :
    (run.onFailure action).Ends events (.error e) (new ++ more) := by
  unfold Ends at h haction ⊢
  simp only [Run.onFailure, h, haction, List.append_assoc]

/-- An action that is done after a failure and fails itself gives its own failure. -/
theorem Ends.onFailure_error {run : Run α} {action : Run Unit} (h : run.Ends events (.error e) new)
    (haction : action.Ends (events ++ new) (.error e') more) :
    (run.onFailure action).Ends events (.error e') (new ++ more) := by
  unfold Ends at h haction ⊢
  simp only [Run.onFailure, h, haction, List.append_assoc]

/-- A change of the failure changes only a failure. -/
theorem Ends.mapFailure {run : Run α} (h : run.Ends events outcome new)
    (change : Failure → Failure) :
    (run.mapFailure change).Ends events (outcome.mapError change) new := by
  unfold Ends at h ⊢
  cases outcome with
  | ok a => simp only [Run.mapFailure, h, Outcome.mapError_ok]
  | error e => simp only [Run.mapFailure, h, Outcome.mapError_error]

end Run

end AnnotatedSql
