import AnnotatedSql.Proofs.Engine.Run

/-!
# Runs that execute one text at most

Whatever is passed as the connection, and whichever calls fail, an adapter hands over nothing but
the text that it was given, and that no more than once.
-/

set_option autoImplicit false

namespace AnnotatedSql

namespace Run

variable {α β : Type} {execution : String × List Value}

/-- A run only adds events, and executes nothing but the given text, no more than once. -/
def ExecutesAtMost (run : Run α) (execution : String × List Value) : Prop :=
  ∀ events, ∃ list, run.Executes events list ∧ (list = [] ∨ list = [execution])

/-- After a computation that succeeds without events comes what comes after its result. -/
theorem ofExcept_ok_andThen (a : α) (next : α → Run β) : (ofExcept (.ok a) >>= next) = next a :=
  rfl

/-- A quiet run executes nothing at all. -/
theorem Quiet.executesAtMost {run : Run α} (h : run.Quiet) : run.ExecutesAtMost execution :=
  fun events => ⟨[], h events, Or.inl rfl⟩

/-- A call executes what it says at most. -/
theorem executesAtMost_call (connection : Connection) {c : EngineCall}
    (h : c.execution? = some execution) : (connection.call c).ExecutesAtMost execution := by
  intro events
  have hcall := executes_call connection c events
  rw [h] at hcall
  exact ⟨[execution], hcall, Or.inr rfl⟩

/-- What is done at most after a quiet run is done at most by both. -/
theorem Quiet.andThen {first : Run α} {next : α → Run β} (hfirst : first.Quiet)
    (hnext : ∀ a, (next a).ExecutesAtMost execution) :
    (first >>= next).ExecutesAtMost execution := by
  intro events
  obtain ⟨outcome, new, hrun, hnone⟩ := hfirst events
  cases outcome with
  | error e => exact ⟨[], ⟨.error e, new, Ends.stop hrun, hnone⟩, Or.inl rfl⟩
  | ok a =>
    obtain ⟨list, hexecutes, hlist⟩ := hnext a (first events).2
    exact ⟨list, Executes.after (hfirst events) (by rw [hrun]) hexecutes, hlist⟩

/-- What is done at most before a quiet run is done at most by both. -/
theorem ExecutesAtMost.andThen {first : Run α} {next : α → Run β}
    (hfirst : first.ExecutesAtMost execution) (hnext : ∀ a, (next a).Quiet) :
    (first >>= next).ExecutesAtMost execution := by
  intro events
  obtain ⟨list, hexecutes, hlist⟩ := hfirst events
  exact ⟨list, hexecutes.andThen hnext, hlist⟩

/-- A quiet action that is done in any case changes nothing of what is done at most. -/
theorem ExecutesAtMost.ensuring {run : Run α} {action : Run Unit}
    (h : run.ExecutesAtMost execution) (hquiet : action.Quiet) :
    (run.ensuring action).ExecutesAtMost execution := by
  intro events
  obtain ⟨list, hexecutes, hlist⟩ := h events
  exact ⟨list, hexecutes.ensuring hquiet, hlist⟩

/-- A quiet action that is done after a failure changes nothing of what is done at most. -/
theorem ExecutesAtMost.onFailure {run : Run α} {action : Run Unit}
    (h : run.ExecutesAtMost execution) (hquiet : action.Quiet) :
    (run.onFailure action).ExecutesAtMost execution := by
  intro events
  obtain ⟨list, hexecutes, hlist⟩ := h events
  exact ⟨list, hexecutes.onFailure hquiet, hlist⟩

/-- A change of the failure changes nothing of what is done at most. -/
theorem ExecutesAtMost.mapFailure {run : Run α} (h : run.ExecutesAtMost execution)
    (change : Failure → Failure) : (run.mapFailure change).ExecutesAtMost execution := by
  intro events
  obtain ⟨list, hexecutes, hlist⟩ := h events
  exact ⟨list, hexecutes.mapFailure change, hlist⟩

end Run

namespace Adapter

variable {execution : String × List Value}

/-- A call on whatever was passed as the connection executes what it says at most. -/
theorem executesAtMost_callOn (connection : Connection) (target : Value) (method : String)
    {c : EngineCall} (h : c.execution? = some execution) :
    (callOn connection target method c).ExecutesAtMost execution := by
  unfold callOn
  split
  · exact Run.executesAtMost_call connection h
  · exact (Run.quiet_fail _).executesAtMost

/-- A call that executes nothing is quiet on whatever was passed as the connection. -/
theorem quiet_callOn (connection : Connection) (target : Value) (method : String) {c : EngineCall}
    (h : c.execution? = none) : (callOn connection target method c).Quiet := by
  unfold callOn
  split
  · exact Run.quiet_call connection h
  · exact Run.quiet_fail _

/-- An adapter executes a query once at most. -/
theorem executesAtMost_execute (a : Adapter) (connection : Connection) (target : Value)
    (sql : String) (parameters : List Value) :
    (a.execute connection target sql parameters).ExecutesAtMost (sql, parameters) := by
  have hclose : (connection.call .close).Quiet := Run.quiet_call connection rfl
  unfold execute guarding
  apply Run.ExecutesAtMost.mapFailure
  cases a.driver with
  | generic =>
    apply (quiet_callOn connection target "cursor" rfl).andThen
    intro _
    apply Run.ExecutesAtMost.ensuring _ hclose
    exact (Run.executesAtMost_call connection rfl).andThen fun _ => quiet_rowCount a connection
  | sqlite =>
    apply (executesAtMost_callOn connection target "execute" rfl).andThen
    intro _ later
    exact (quiet_rowCount a connection later).ensuring hclose

/-- An adapter executes a script once at most. -/
theorem executesAtMost_executeScript (a : Adapter) (connection : Connection) (target : Value)
    (sql : String) : (a.executeScript connection target sql).ExecutesAtMost (sql, []) := by
  unfold executeScript guarding
  apply Run.ExecutesAtMost.mapFailure
  cases a.driver with
  | generic =>
    apply (quiet_callOn connection target "cursor" rfl).andThen
    intro _
    exact (Run.executesAtMost_call connection rfl).ensuring (Run.quiet_call connection rfl)
  | sqlite => exact executesAtMost_callOn connection target "executescript" rfl

/-- An adapter that opens a query executes it once at most, whatever is done with the rows. -/
theorem executesAtMost_select {α : Type} (a : Adapter) (connection : Connection) (target : Value)
    (sql : String) (parameters : List Value) {body : Run α} (hbody : body.Quiet) :
    (a.select connection target sql parameters body).ExecutesAtMost (sql, parameters) := by
  have hclose : (connection.call .close).Quiet := Run.quiet_call connection rfl
  unfold select
  apply Run.ExecutesAtMost.andThen
  · unfold openQuery guarding
    apply Run.ExecutesAtMost.mapFailure
    apply Run.ExecutesAtMost.mapFailure
    apply (quiet_callOn connection target "cursor" rfl).andThen
    intro _
    exact (Run.executesAtMost_call connection rfl).onFailure hclose
  · intro _ later
    apply (hbody later).ensuring
    intro last
    exact (hclose last).mapFailure iterationSignal

end Adapter

end AnnotatedSql
