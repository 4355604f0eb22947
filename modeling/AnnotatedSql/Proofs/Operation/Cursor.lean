import AnnotatedSql.Proofs.Engine.Cursor
import AnnotatedSql.Proofs.Operation.Call

/-!
# Calls close their cursor

A call of an operation gets one cursor at most. When it ends, the cursor has been closed once, and
nothing has been done with it before it was given or after it was closed, whatever fails on the way.
-/

set_option autoImplicit false

namespace AnnotatedSql

open CursorStage

namespace Operation

/-- The slots of an operation that is made hold a style, the settings' before the adapter's, and the
adapter. -/
theorem slots_of_make {s : Statement} {adapter : Adapter} {settings : Settings} {op : Operation}
    (h : make s adapter settings = .ok op) :
    op.style = .held (settings.style.getD adapter.style) ∧ op.adapter = .held adapter := by
  obtain ⟨_, _, _, _, _, _, _, rfl⟩ := build_eq_ok_iff.mp h
  exact ⟨rfl, rfl⟩

/-- An operation that is made of a statement runs it. -/
theorem statement_of_make {s : Statement} {adapter : Adapter} {settings : Settings}
    {op : Operation} (h : make s adapter settings = .ok op) : op.statement = s := by
  obtain ⟨_, _, _, _, _, _, _, rfl⟩ := build_eq_ok_iff.mp h
  rfl

/-- Where a style is held a query is made without events. -/
theorem query_eq_ofExcept {op : Operation} {style : PlaceholderStyle} (h : op.style = .held style)
    (containers : Containers) (values : List (String × Value)) :
    ∃ outcome, op.query containers values = Run.ofExcept outcome := by
  unfold query
  rw [h]
  cases op.static with
  | some q => exact ⟨_, rfl⟩
  | none => exact ⟨_, rfl⟩

variable {op : Operation} {style : PlaceholderStyle} {adapter : Adapter}
  {connection : Connection}

/-- Preparing a query is nothing to a cursor. -/
theorem takes_prepare (h : op.style = .held style) (containers : Containers)
    (values : List (String × Value)) (stage : CursorStage) :
    (op.prepare containers values).Takes connection stage (· = stage) (· = stage) := by
  obtain ⟨outcome, hquery⟩ := query_eq_ofExcept h containers values
  unfold prepare
  rw [hquery]
  have hoffered : (Run.ofExcept outcome).Takes connection stage (· = stage) (· = stage) :=
    Run.takes_ofExcept outcome rfl rfl
  apply hoffered.andThen
  intro q
  have hlogged : (Run.emit (.logged (Log.executing op.statement q))).Takes connection stage
      (· = stage) (· = stage) :=
    Run.takes_event (fun _ => ⟨_, rfl⟩) fun _ => Step.aside stage rfl rfl rfl
  exact hlogged.andThen fun _ => Run.takes_result q rfl

/-- Fetching a row leaves a cursor open. -/
theorem takes_fetch (adapter : Adapter) (connection : Connection) :
    (fetch adapter connection).Takes connection opened (· = opened) (· = opened) :=
  (connection.takes_call_of_isOnCursor rfl rfl).mapFailure _

/-- Handing a row to the callback is nothing to a cursor. -/
theorem takes_invoke (op : Operation) (surroundings : Surroundings) (callback row : Value)
    (rowNumber : ℕ) (stage : CursorStage) :
    (op.invoke surroundings callback row rowNumber).Takes connection stage (· = stage)
      (· = stage) := by
  unfold invoke
  apply Run.Takes.mapFailure
  unfold handRow
  split
  · split
    · exact Run.takes_event (fun _ => ⟨_, rfl⟩) fun _ => Step.aside stage rfl rfl rfl
    · exact Run.takes_result _ rfl
  · exact Run.takes_fail _ rfl

/-- Handing rows to the callback leaves a cursor open. -/
theorem takes_deliver (op : Operation) (adapter : Adapter) (surroundings : Surroundings)
    (callback : Value) (rowNumber : ℕ) (rows : List Value) :
    (op.deliver adapter surroundings callback rowNumber rows).Takes surroundings.connection opened
      (· = opened) (· = opened) := by
  have hfetch := takes_fetch adapter surroundings.connection
  induction rows generalizing rowNumber with
  | nil => exact hfetch
  | cons row rest ih =>
    unfold deliver
    apply hfetch.andThen
    intro _
    split
    · exact Run.takes_result _ rfl
    · exact (takes_invoke op surroundings callback row rowNumber opened).andThen
        fun _ => ih (rowNumber + 1)

/-- Handing the first row to the callback leaves a cursor open. -/
theorem takes_deliverFirst (op : Operation) (adapter : Adapter) (surroundings : Surroundings)
    (callback : Value) :
    (op.deliverFirst adapter surroundings callback).Takes surroundings.connection opened
      (· = opened) (· = opened) := by
  unfold deliverFirst
  apply (takes_fetch adapter surroundings.connection).andThen
  intro _
  split
  · exact Run.takes_fail _ rfl
  · exact Run.takes_fail _ rfl
  · exact takes_invoke op surroundings callback _ 1 opened

/-- Carrying out a query leaves no cursor open. -/
theorem takes_carryOut (op : Operation) (adapter : Adapter) (surroundings : Surroundings)
    (bound : Bound) (q : BoundQuery) :
    (op.carryOut adapter surroundings bound q).Takes surroundings.connection unopened (· ≠ opened)
      (· ≠ opened) := by
  unfold carryOut
  cases op.statement.kind with
  | query =>
    apply Run.Takes.giving
    exact adapter.takes_select surroundings.connection bound.target q.sql q.parameters
      (takes_deliver op adapter surroundings bound.callback 1 surroundings.connection.rows)
  | execute =>
    exact adapter.takes_execute surroundings.connection bound.target q.sql q.parameters
  | batch =>
    apply Run.Takes.giving
    exact adapter.takes_executeScript surroundings.connection bound.target q.sql
  | returning =>
    exact adapter.takes_select surroundings.connection bound.target q.sql q.parameters
      (takes_deliverFirst op adapter surroundings bound.callback)

/-- A call leaves no cursor open. -/
theorem takes_call (hstyle : op.style = .held style) (hadapter : op.adapter = .held adapter)
    (containers : Containers) (surroundings : Surroundings) (positional : List Value)
    (named : List (String × Value)) :
    (op.call containers surroundings positional named).Takes surroundings.connection unopened
      (· ≠ opened) (· ≠ opened) := by
  have hbind : (Run.ofExcept (op.bind containers positional named)).Takes surroundings.connection
      unopened (· = unopened) (· ≠ opened) :=
    Run.takes_ofExcept _ rfl (ne_opened_of_unopened unopened rfl)
  rw [call_eq hadapter]
  apply hbind.andThen
  intro bound
  have hprepare : (op.prepare containers (queriedValues op.statement.kind bound.values)).Takes
      surroundings.connection unopened (· = unopened) (· ≠ opened) :=
    (takes_prepare hstyle containers _ unopened).mono (fun _ h => h) ne_opened_of_unopened
  apply hprepare.andThen
  exact takes_carryOut op adapter surroundings bound

end Operation

/-- What a run does with its cursor, among the events that it adds to those before. -/
structure KeepsCursor (connection : Connection) (before new : List Event) : Prop where
  /-- It is given one at most. -/
  obtained_le_one : Event.obtained connection before new ≤ 1
  /-- It closes as many times as it is given one. -/
  closings_eq : Event.closings new = Event.obtained connection before new
  /-- Whenever something is done with a cursor one has been given and none has been closed. -/
  used_open : ∀ front event back, new = front ++ event :: back → event.isOnCursor = true →
    Event.obtained connection before front = 1 ∧ Event.closings front = 0
  /-- It neither commits nor rolls back. -/
  undecided : ∀ event ∈ new, event.endsTransaction = false

/-- Events that lead from no cursor to no open cursor keep the cursor between. -/
theorem CursorStage.Path.keepsCursor {connection : Connection} {before new : List Event}
    {last : CursorStage} (h : Path connection before unopened new last) (hlast : last ≠ opened) :
    KeepsCursor connection before new := by
  obtain ⟨hobtained, hclosings⟩ := h.counts
  have hsettled := settled_of_ne_opened hlast
  have hunopened : unopened.obtained = 0 ∧ unopened.closings = 0 := ⟨rfl, rfl⟩
  refine ⟨by omega, by omega, ?_, ?_⟩
  · intro front event back hsplit hon
    subst hsplit
    obtain ⟨stage, next, hfront, hstep⟩ := h.split
    obtain rfl := hstep.opened_of_isOnCursor hon
    obtain ⟨hobtained, hclosings⟩ := hfront.counts
    simp only [CursorStage.obtained, CursorStage.closings] at hobtained hclosings
    omega
  · exact h.endsTransaction_eq

namespace Operation

/-- A call of an operation gets one cursor at most. When it ends, with a result or a failure, the
cursor has been closed once, and nothing has been done with it that is not between. -/
theorem keepsCursor_call {s : Statement} {adapter : Adapter} {settings : Settings} {op : Operation}
    (hmake : make s adapter settings = .ok op) (containers : Containers)
    (surroundings : Surroundings) (positional : List Value) (named : List (String × Value))
    (events : List Event) :
    ∃ outcome new,
      op.call containers surroundings positional named events = (outcome, events ++ new) ∧
        KeepsCursor surroundings.connection events new := by
  obtain ⟨hstyle, hadapter⟩ := slots_of_make hmake
  obtain ⟨outcome, new, last, hends, hpath, hlast⟩ :=
    takes_call hstyle hadapter containers surroundings positional named events
  refine ⟨outcome, new, hends, hpath.keepsCursor ?_⟩
  cases outcome <;> exact hlast

/-- A connection that is interrupted while a row is fetched and then fails to close its cursor. -/
def interrupted : Surroundings :=
  { connection := .scripted [.int 1] none
      [⟨"fetchone", none, .plain .keyboardInterrupt ""⟩, ⟨"close", none, .plain .stopIteration ""⟩]
    callback? := fun _ => none }

/-- The cursor is kept on a connection that is interrupted and then fails to close it. -/
theorem keepsCursor_call_interrupted :
    ∃ op outcome new,
      make ⟨"all", .query, [], [.literal "select 1"], "", none⟩ .standard .standard = .ok op ∧
      op.call (fun _ _ => .operation) interrupted [.connection, .callback 0] [] [] =
        (outcome, [] ++ new) ∧
      KeepsCursor interrupted.connection [] new ∧
      Event.obtained interrupted.connection [] new = 1 := by
  have hmake : ∃ op,
      make ⟨"all", .query, [], [.literal "select 1"], "", none⟩ .standard .standard = .ok op ∧
        Event.obtained interrupted.connection []
          (op.call (fun _ _ => .operation) interrupted [.connection, .callback 0] [] []).2 = 1 :=
    ⟨_, rfl, rfl⟩
  obtain ⟨op, hop, hobtained⟩ := hmake
  obtain ⟨outcome, new, hcall, hkeeps⟩ := keepsCursor_call hop (fun _ _ => .operation) interrupted
    [.connection, .callback 0] [] []
  rw [hcall, List.nil_append] at hobtained
  exact ⟨op, outcome, new, hop, hcall, hkeeps, hobtained⟩

end Operation

end AnnotatedSql
