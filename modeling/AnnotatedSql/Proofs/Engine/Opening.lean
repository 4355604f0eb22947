import AnnotatedSql.Proofs.Engine.AtMost
import AnnotatedSql.Proofs.Engine.Translation
import AnnotatedSql.Statement.Kind

/-!
# What adapters begin with

An adapter begins with a call on what was passed as the connection: it asks for a cursor, or has its
text executed at once. What is no connection has no method for that, and then nothing happens.
-/

set_option autoImplicit false

namespace AnnotatedSql

/-- The method that is called. -/
def EngineCall.method : EngineCall → String
  | cursor => "cursor"
  | execute .. | executeDirectly .. => "execute"
  | executeScript _ => "executescript"
  | fetch => "fetchone"
  | close => "close"

namespace Run

variable {α β : Type} {events : List Event} {event : Event}

/-- A run after some events adds an event to them before any other. -/
def Begins (run : Run α) (events : List Event) (event : Event) : Prop :=
  ∃ outcome later, run.Ends events outcome (event :: later)

/-- A run only adds events. -/
def OnlyAdds (run : Run α) : Prop :=
  ∀ events, ∃ outcome new, run.Ends events outcome new

/-- A run that executes one text at most only adds events. -/
theorem ExecutesAtMost.onlyAdds {run : Run α} {execution : String × List Value}
    (h : run.ExecutesAtMost execution) : run.OnlyAdds := by
  intro events
  obtain ⟨_, ⟨outcome, new, hends, _⟩, _⟩ := h events
  exact ⟨outcome, new, hends⟩

/-- A quiet run only adds events. -/
theorem Quiet.onlyAdds {run : Run α} (h : run.Quiet) : run.OnlyAdds := by
  intro events
  obtain ⟨outcome, new, hends, _⟩ := h events
  exact ⟨outcome, new, hends⟩

/-- A call begins with itself. -/
theorem begins_call (connection : Connection) (c : EngineCall) (events : List Event) :
    (connection.call c).Begins events (.engine c) :=
  ⟨_, [], rfl⟩

/-- Two runs one after another begin as the first does. -/
theorem Begins.andThen {first : Run α} {next : α → Run β} (h : first.Begins events event)
    (hnext : ∀ a, (next a).OnlyAdds) : (first >>= next).Begins events event := by
  obtain ⟨outcome, later, hends⟩ := h
  cases outcome with
  | error e => exact ⟨.error e, later, hends.stop⟩
  | ok a =>
    -- Whatever the next run does, it cannot put an event before those that there are.
    obtain ⟨last, more, hmore⟩ := hnext a (events ++ event :: later)
    exact ⟨last, later ++ more, hends.andThen hmore⟩

/-- A change of the failure changes nothing of how a run begins. -/
theorem Begins.mapFailure {run : Run α} (h : run.Begins events event)
    (change : Failure → Failure) : (run.mapFailure change).Begins events event := by
  obtain ⟨outcome, later, hends⟩ := h
  exact ⟨_, later, hends.mapFailure change⟩

end Run

namespace Adapter

/-- The call on the connection that an adapter begins a statement of a kind with. -/
def opening (a : Adapter) (kind : StatementKind) (sql : String) (parameters : List Value) :
    EngineCall :=
  match a.driver, kind with
  | .sqlite, .execute => .executeDirectly sql parameters
  | .sqlite, .batch => .executeScript sql
  | .sqlite, .query | .sqlite, .returning | .generic, _ => .cursor

/-- A statement that hands over rows begins with a cursor. -/
theorem opening_of_takesCallback (a : Adapter) {kind : StatementKind} (sql : String)
    (parameters : List Value) (h : kind.takesCallback = true) :
    a.opening kind sql parameters = .cursor := by
  unfold opening
  cases a.driver with
  | generic => rfl
  | sqlite => cases kind <;> first | rfl | cases h

variable {connection : Connection} {target : Value} {events : List Event}

/-- The failure of a call on what is no connection. -/
def missingMethod (target : Value) (c : EngineCall) : Failure :=
  .plain .attributeAccess
    ("'" ++ target.typeName ++ "' object has no attribute " ++ Text.quoted c.method)

/-- What is no connection has no method to call. -/
theorem callOn_other (connection : Connection) (c : EngineCall) (h : target ≠ .connection) :
    callOn connection target c.method c = .fail (missingMethod target c) := by
  unfold callOn
  split
  · exact absurd rfl h
  · rfl

/-- The failure of a statement on what is no connection. -/
def noMethod (a : Adapter) (target : Value) (c : EngineCall) : Failure :=
  Failure.underDriver a.errorKinds (missingMethod target c)

/-- A missing method is no signal that an iteration ends. -/
theorem iterationSignal_noMethod (a : Adapter) (target : Value) (c : EngineCall) :
    iterationSignal (a.noMethod target c) = a.noMethod target c := by
  apply iterationSignal_eq
  unfold noMethod Failure.underDriver
  split
  · rfl
  · split <;> rfl

/-- An adapter begins to execute a query on the connection. -/
theorem begins_execute (a : Adapter) (sql : String) (parameters : List Value) :
    (a.execute connection .connection sql parameters).Begins events
      (.engine (a.opening .execute sql parameters)) := by
  have hclose : (connection.call .close).Quiet := Run.quiet_call connection rfl
  unfold execute guarding opening
  apply Run.Begins.mapFailure
  cases a.driver with
  | generic =>
    apply (Run.begins_call connection .cursor events).andThen
    intro _
    have hexecute : (connection.call (.execute sql (some parameters))).ExecutesAtMost
        (sql, parameters) := Run.executesAtMost_call connection rfl
    exact ((hexecute.andThen fun _ => quiet_rowCount a connection).ensuring hclose).onlyAdds
  | sqlite =>
    apply (Run.begins_call connection (.executeDirectly sql parameters) events).andThen
    intro _
    apply Run.Quiet.onlyAdds
    intro later
    exact (quiet_rowCount a connection later).ensuring hclose

/-- An adapter begins to execute a script on the connection. -/
theorem begins_executeScript (a : Adapter) (sql : String) (parameters : List Value) :
    (a.executeScript connection .connection sql).Begins events
      (.engine (a.opening .batch sql parameters)) := by
  unfold executeScript guarding opening
  apply Run.Begins.mapFailure
  cases a.driver with
  | generic =>
    apply (Run.begins_call connection .cursor events).andThen
    intro _
    have hexecute : (connection.call (.execute sql none)).ExecutesAtMost (sql, []) :=
      Run.executesAtMost_call connection rfl
    exact (hexecute.ensuring (Run.quiet_call connection rfl)).onlyAdds
  | sqlite => exact Run.begins_call connection (.executeScript sql) events

/-- An adapter begins to open a query with a cursor, whatever is done with the rows. -/
theorem begins_select {α : Type} (a : Adapter) (sql : String) (parameters : List Value)
    {body : Run α} (hbody : body.Quiet) :
    (a.select connection .connection sql parameters body).Begins events (.engine .cursor) := by
  have hclose : (connection.call .close).Quiet := Run.quiet_call connection rfl
  unfold select openQuery guarding
  apply Run.Begins.andThen
  · apply Run.Begins.mapFailure
    apply Run.Begins.mapFailure
    apply (Run.begins_call connection .cursor events).andThen
    intro _
    have hexecute : (connection.call (.execute sql (some parameters))).ExecutesAtMost
        (sql, parameters) := Run.executesAtMost_call connection rfl
    exact (hexecute.onFailure hclose).onlyAdds
  · intro _
    apply Run.Quiet.onlyAdds
    intro later
    apply (hbody later).ensuring
    intro last
    exact (hclose last).mapFailure iterationSignal

/-- Nothing comes after a call on what is no connection. -/
theorem guarding_callOn_other {α : Type} (a : Adapter) (connection : Connection) (c : EngineCall)
    (h : target ≠ .connection) (next : Unit → Run α) :
    a.guarding (callOn connection target c.method c >>= next) = .fail (a.noMethod target c) := by
  rw [callOn_other connection c h]
  rfl

/-- A query is not executed on what is no connection. -/
theorem execute_other (a : Adapter) (connection : Connection) (sql : String)
    (parameters : List Value) (h : target ≠ .connection) :
    a.execute connection target sql parameters =
      .fail (a.noMethod target (a.opening .execute sql parameters)) := by
  unfold execute opening
  cases a.driver with
  | generic => exact a.guarding_callOn_other connection .cursor h _
  | sqlite => exact a.guarding_callOn_other connection (.executeDirectly sql parameters) h _

/-- A script is not executed on what is no connection. -/
theorem executeScript_other (a : Adapter) (connection : Connection) (sql : String)
    (parameters : List Value) (h : target ≠ .connection) :
    a.executeScript connection target sql =
      .fail (a.noMethod target (a.opening .batch sql parameters)) := by
  unfold executeScript opening
  cases a.driver with
  | generic => exact a.guarding_callOn_other connection .cursor h _
  | sqlite =>
    have hcall := callOn_other connection (.executeScript sql) h
    exact congrArg a.guarding hcall

/-- A query is not opened on what is no connection. -/
theorem select_other {α : Type} (a : Adapter) (connection : Connection) (sql : String)
    (parameters : List Value) (body : Run α) (h : target ≠ .connection) :
    a.select connection target sql parameters body = .fail (a.noMethod target .cursor) := by
  have hopen : a.openQuery connection target sql parameters =
      .fail (a.noMethod target .cursor) := by
    unfold openQuery
    refine (congrArg _ (a.guarding_callOn_other connection .cursor h _)).trans ?_
    exact congrArg Run.fail (a.iterationSignal_noMethod target .cursor)
  unfold select
  rw [hopen]
  rfl

end Adapter

end AnnotatedSql
