import AnnotatedSql.Engine.Adapter
import AnnotatedSql.Proofs.Engine.Ending

/-!
# What runs execute

Of all that happens in a run only some calls hand SQL text to the connection. The lemmas here say
for each way of putting runs together which texts are executed, with which bound values.
-/

set_option autoImplicit false

namespace AnnotatedSql

/-- The text that a call executes, with the values bound to it. A script has none. -/
def EngineCall.execution? : EngineCall → Option (String × List Value)
  | execute sql parameters => some (sql, parameters.getD [])
  | executeDirectly sql parameters => some (sql, parameters)
  | executeScript sql => some (sql, [])
  | cursor | fetch | close => none

/-- The texts that are executed among events, in order. -/
def Event.executions (events : List Event) : List (String × List Value) :=
  (calls events).filterMap EngineCall.execution?

/-- What is executed among some events and others after them. -/
theorem Event.executions_append (first last : List Event) :
    executions (first ++ last) = executions first ++ executions last := by
  simp [executions, calls]

namespace Run

variable {α β : Type}

/-- A run after some events adds events to them, and among these the given texts are executed. -/
def Executes (run : Run α) (events : List Event) (list : List (String × List Value)) : Prop :=
  ∃ outcome new, run events = (outcome, events ++ new) ∧ Event.executions new = list

/-- A run only adds events, and never executes anything. -/
def Quiet (run : Run α) : Prop :=
  ∀ events, run.Executes events []

/-- Nothing happens in a result. -/
theorem quiet_result (a : α) : (result a).Quiet :=
  fun events => ⟨.ok a, [], ends_result a events, rfl⟩

/-- Nothing happens in a failure. -/
theorem quiet_fail (e : Failure) : (fail e : Run α).Quiet :=
  fun events => ⟨.error e, [], ends_fail e events, rfl⟩

/-- Nothing happens in a computation without events. -/
theorem quiet_ofExcept (outcome : Except Failure α) : (ofExcept outcome).Quiet := by
  cases outcome with
  | ok a => exact quiet_result a
  | error e => exact quiet_fail e

/-- A call executes what it says, whether it fails or not. -/
theorem executes_call (connection : Connection) (c : EngineCall) (events : List Event) :
    (connection.call c).Executes events c.execution?.toList := by
  refine ⟨_, [.engine c], rfl, ?_⟩
  cases h : c.execution? <;> simp [Event.executions, Event.calls, Event.call?, h]

/-- A call that executes nothing is quiet. -/
theorem quiet_call (connection : Connection) {c : EngineCall} (h : c.execution? = none) :
    (connection.call c).Quiet := by
  intro events
  have hcall := executes_call connection c events
  rw [h] at hcall
  exact hcall

/-- After a run that succeeds without executing anything, the next run executes all. -/
theorem Executes.after {first : Run α} {next : α → Run β} {events : List Event} {a : α}
    {list : List (String × List Value)} (hfirst : first.Executes events [])
    (hok : (first events).1 = .ok a) (hnext : (next a).Executes (first events).2 list) :
    (first >>= next).Executes events list := by
  obtain ⟨outcome, new, hrun, hnone⟩ := hfirst
  rw [hrun] at hok hnext
  simp only at hok hnext
  subst hok
  obtain ⟨last, more, hmore, hlist⟩ := hnext
  refine ⟨last, new ++ more, Ends.andThen hrun hmore, ?_⟩
  rw [Event.executions_append, hnone, hlist, List.nil_append]

/-- What comes after a run adds nothing to what it executes if it is quiet. -/
theorem Executes.andThen {first : Run α} {next : α → Run β} {events : List Event}
    {list : List (String × List Value)} (hfirst : first.Executes events list)
    (hnext : ∀ a, (next a).Quiet) : (first >>= next).Executes events list := by
  obtain ⟨outcome, new, hrun, hlist⟩ := hfirst
  cases outcome with
  | error e => exact ⟨.error e, new, Ends.stop hrun, hlist⟩
  | ok a =>
    obtain ⟨last, more, hmore, hnone⟩ := hnext a (events ++ new)
    refine ⟨last, new ++ more, Ends.andThen hrun hmore, ?_⟩
    rw [Event.executions_append, hlist, hnone, List.append_nil]

/-- An action that is done in any case adds nothing to what is executed if it is quiet. -/
theorem Executes.ensuring {run : Run α} {action : Run Unit} {events : List Event}
    {list : List (String × List Value)} (h : run.Executes events list) (hquiet : action.Quiet) :
    (run.ensuring action).Executes events list := by
  obtain ⟨outcome, new, hrun, hlist⟩ := h
  obtain ⟨last, more, hmore, hnone⟩ := hquiet (events ++ new)
  have hall : Event.executions (new ++ more) = list := by
    rw [Event.executions_append, hlist, hnone, List.append_nil]
  cases last with
  | ok u => exact ⟨outcome, new ++ more, Ends.ensuring hrun hmore, hall⟩
  | error e => exact ⟨.error e, new ++ more, Ends.ensuring_error hrun hmore, hall⟩

/-- An action that is done after a failure adds nothing to what is executed if it is quiet. -/
theorem Executes.onFailure {run : Run α} {action : Run Unit} {events : List Event}
    {list : List (String × List Value)} (h : run.Executes events list) (hquiet : action.Quiet) :
    (run.onFailure action).Executes events list := by
  obtain ⟨outcome, new, hrun, hlist⟩ := h
  cases outcome with
  | ok a => exact ⟨.ok a, new, Ends.onFailure_ok hrun action, hlist⟩
  | error e =>
    obtain ⟨last, more, hmore, hnone⟩ := hquiet (events ++ new)
    have hall : Event.executions (new ++ more) = list := by
      rw [Event.executions_append, hlist, hnone, List.append_nil]
    cases last with
    | ok u => exact ⟨.error e, new ++ more, Ends.onFailure hrun hmore, hall⟩
    | error e' => exact ⟨.error e', new ++ more, Ends.onFailure_error hrun hmore, hall⟩

/-- A change of the failure changes nothing of what is executed. -/
theorem Executes.mapFailure {run : Run α} {events : List Event}
    {list : List (String × List Value)} (h : run.Executes events list)
    (change : Failure → Failure) : (run.mapFailure change).Executes events list := by
  obtain ⟨outcome, new, hrun, hlist⟩ := h
  exact ⟨_, new, Ends.mapFailure hrun change, hlist⟩

end Run

namespace Adapter

variable {connection : Connection} {events : List Event}

/-- Looking up the row count executes nothing. -/
theorem quiet_rowCount (a : Adapter) (connection : Connection) :
    (a.rowCount connection).Quiet := by
  have hread : connection.readRowCount.Quiet := fun _ => ⟨_, [.countRead], rfl, rfl⟩
  have hasked : connection.showsRowCount.Quiet := fun _ => ⟨_, [.countAsked], rfl, rfl⟩
  intro events
  unfold rowCount
  cases a.driver with
  | sqlite => exact hread events
  | generic =>
    apply (hasked events).andThen
    intro shown
    cases shown with
    | false => exact Run.quiet_result _
    | true => exact hread

/-- The connection gives a cursor to whoever asks next. -/
theorem call_cursor (h : connection.failure? (Event.calls events) .cursor = none) :
    (connection.call .cursor events).1 = .ok () := by
  unfold Connection.call
  rw [h]

/-- An adapter executes a query once on a connection that gives a cursor. -/
theorem executes_execute (a : Adapter) (sql : String) (parameters : List Value)
    (hcursor : connection.failure? (Event.calls events) .cursor = none) :
    (a.execute connection .connection sql parameters).Executes events [(sql, parameters)] := by
  have hclose : (connection.call .close).Quiet := Run.quiet_call connection rfl
  unfold execute guarding
  apply Run.Executes.mapFailure
  cases a.driver with
  | generic =>
    apply Run.Executes.after (Run.quiet_call connection rfl events) (call_cursor hcursor)
    apply Run.Executes.ensuring _ hclose
    exact (Run.executes_call connection (.execute sql (some parameters)) _).andThen
      fun _ => quiet_rowCount a connection
  | sqlite =>
    apply (Run.executes_call connection (.executeDirectly sql parameters) events).andThen
    intro _ later
    exact (quiet_rowCount a connection later).ensuring hclose

/-- An adapter executes a script once on a connection that gives a cursor. -/
theorem executes_executeScript (a : Adapter) (sql : String)
    (hcursor : connection.failure? (Event.calls events) .cursor = none) :
    (a.executeScript connection .connection sql).Executes events [(sql, [])] := by
  unfold executeScript guarding
  apply Run.Executes.mapFailure
  cases a.driver with
  | generic =>
    apply Run.Executes.after (Run.quiet_call connection rfl events) (call_cursor hcursor)
    exact (Run.executes_call connection (.execute sql none) _).ensuring
      (Run.quiet_call connection rfl)
  | sqlite => exact Run.executes_call connection (.executeScript sql) events

/-- An adapter that opens a query executes it once on a connection that gives a cursor, whatever
is done with the rows. -/
theorem executes_select {α : Type} (a : Adapter) (sql : String) (parameters : List Value)
    {body : Run α} (hbody : body.Quiet)
    (hcursor : connection.failure? (Event.calls events) .cursor = none) :
    (a.select connection .connection sql parameters body).Executes events
      [(sql, parameters)] := by
  have hclose : (connection.call .close).Quiet := Run.quiet_call connection rfl
  unfold select
  apply Run.Executes.andThen
  · unfold openQuery guarding
    apply Run.Executes.mapFailure
    apply Run.Executes.mapFailure
    apply Run.Executes.after (Run.quiet_call connection rfl events) (call_cursor hcursor)
    exact (Run.executes_call connection (.execute sql (some parameters)) _).onFailure hclose
  · intro _ later
    apply (hbody later).ensuring
    intro last
    exact (hclose last).mapFailure iterationSignal

end Adapter

end AnnotatedSql
