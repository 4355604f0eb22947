import AnnotatedSql.Proofs.Engine.Translation
import AnnotatedSql.Proofs.Operation.Call
import AnnotatedSql.Registry

/-!
# Calls deliver rows

A query hands the rows that its cursor gives to the callback, in order and once each, and fetches
nothing after a row that the callback fails on. A returning statement fetches once. What a callback
raises is told apart from what the driver raises: one names the row, the other is an engine error.
Neither can be said of an error that has no message: the failure of making that comes in its place.
-/

set_option autoImplicit false

namespace AnnotatedSql

open Event

/-- It is no value. A cursor gives it where there are no more rows. -/
def Value.isNothing : Value → Bool
  | .none => true
  | .bool _ | .int _ | .float _ | .text _ | .bytes _ | .list _ | .tuple _ | .mapping _ | .object _
  | .stream _ | .connection | .callback _ => false

/-- The rows before the first that is no value. -/
def Value.untilNothing (rows : List Value) : List Value :=
  rows.takeWhile fun row => !row.isNothing

/-- What is no value is nothing. -/
theorem Value.eq_none_of_isNothing {v : Value} (h : v.isNothing = true) : v = .none := by
  cases v <;> first | rfl | cases h

/-- A first row that is a value stays first. -/
theorem Value.untilNothing_cons {row : Value} (rest : List Value) (h : row.isNothing = false) :
    untilNothing (row :: rest) = row :: untilNothing rest := by
  simp [untilNothing, h]

/-- Rows are fetched and handed to a callback, one after another. -/
def Event.handing (callback : ℕ) (rows : List Value) : List Event :=
  rows.flatMap fun row => [.engine .fetch, .row callback row]

/-- The first row is handed before the others. -/
theorem Event.handing_cons (callback : ℕ) (row : Value) (rows : List Value) :
    handing callback (row :: rows) =
      [Event.engine .fetch, .row callback row] ++ handing callback rows := by
  simp [handing]

/-- A fetch hands nothing over. -/
theorem Event.rowsOf_fetch (callback : ℕ) (before : List Event) :
    rowsOf callback (before ++ [Event.engine .fetch]) = rowsOf callback before := by
  simp [rowsOf, List.filterMap_cons, rowOf?]

/-- What is raised for a failed fetch: the failure itself, an engine error that it caused, or the
failure of making its message. The last is none of the library's own. -/
def Failure.RaisedByFetch (e f : Failure) : Prop :=
  f = e ∨ (f.kind = .engine ∧ f.cause = some e) ∨
    (e.text = .error f ∧ f.kind.isLibrary = false)

/-- A failure is told to be one of a callback on a row of a statement. -/
structure Failure.NamesRow (statement : String) (rowNumber : ℕ) (e f : Failure) : Prop where
  kind_eq : f.kind = .rowCallback
  cause_eq : f.cause = some e
  statement_eq : f.facts.statement = some (.text statement)
  rowNumber_eq : f.facts.rowNumber = some (.int rowNumber)

/-- What is raised for a callback that failed on a row of a statement. -/
structure Failure.RaisedByCallback (statement : String) (rowNumber : ℕ) (e f : Failure) :
    Prop where
  /-- The library's failures pass, and so does what is no error. -/
  passes : e.kind.isLibrary = true ∨ e.kind.isBelow .error = false → f = e
  /-- Every other error that has a message is told to be one of the callback on that row. -/
  named : e.kind.isLibrary = false → e.kind.isBelow .error = true → ∀ message,
    e.text = .ok message → NamesRow statement rowNumber e f
  /-- In place of one without a message comes the failure of making that. -/
  untold : e.kind.isLibrary = false → e.kind.isBelow .error = true → ∀ fault,
    e.text = .error fault → f = fault ∧ f.kind.isLibrary = false

/-- The driver's failures are raised as engine errors, and others as they are. -/
theorem Failure.raisedByFetch_underDriver (kinds : List ErrorKind) (e : Failure) :
    RaisedByFetch e (underDriver kinds e) := by
  unfold underDriver
  split
  · exact Or.inl rfl
  · split
    · cases htext : e.text with
      | ok message =>
        rw [engine_of_text htext]
        exact Or.inr (Or.inl ⟨rfl, rfl⟩)
      | error fault =>
        rw [engine_of_text_error htext]
        exact Or.inr (Or.inr ⟨htext, isLibrary_of_text_eq_error htext⟩)
    · exact Or.inl rfl

/-- The failure of a callback is raised as that. -/
theorem Failure.raisedByCallback_callbackFailure (statement : String) (rowNumber : ℕ)
    (e : Failure) :
    RaisedByCallback statement rowNumber e (Operation.callbackFailure statement rowNumber e) := by
  unfold Operation.callbackFailure
  constructor
  · rintro (hlibrary | hsignal)
    · simp [hlibrary]
    · simp [hsignal]
  · intro hforeign herror message htext
    rw [if_neg (by simp [hforeign]), if_pos herror, rowCallback, htext, saying_ok]
    exact ⟨rfl, rfl, rfl, rfl⟩
  · intro hforeign herror fault htext
    rw [if_neg (by simp [hforeign]), if_pos herror, rowCallback, htext, saying_error]
    exact ⟨rfl, isLibrary_of_text_eq_error htext⟩

/-- How the rows of a query are delivered to a callback, from a number on, after some events: what
happens, and how it ends. -/
inductive Delivered (surroundings : Surroundings) (statement : String) (callback : ℕ)
    (before : List Event) (rowNumber : ℕ) (rows : List Value) :
    List Event → Except Failure Unit → Prop where
  /-- All rows are handed over, and a last fetch gives no more. -/
  | all
      (sound : faults surroundings before (handing callback rows ++ [.engine .fetch]) = []) :
      Delivered surroundings statement callback before rowNumber rows
        (handing callback rows ++ [.engine .fetch]) (.ok ())
  /-- Some rows are handed over, and the next fetch fails. -/
  | unfetched {handed rest : List Value} {e f : Failure} (split : rows = handed ++ rest)
      (sound : faults surroundings before (handing callback handed) = [])
      (fails : failure? surroundings (before ++ handing callback handed) (.engine .fetch) = some e)
      (raised : Failure.RaisedByFetch e f) :
      Delivered surroundings statement callback before rowNumber rows
        (handing callback handed ++ [.engine .fetch]) (.error f)
  /-- Some rows are handed over, and the callback fails on the next. -/
  | refused {handed rest : List Value} {row : Value} {e f : Failure}
      (split : rows = handed ++ row :: rest)
      (sound : faults surroundings before (handing callback handed ++ [.engine .fetch]) = [])
      (fails : failure? surroundings (before ++ (handing callback handed ++ [.engine .fetch]))
        (.row callback row) = some e)
      (raised : Failure.RaisedByCallback statement (rowNumber + handed.length) e f) :
      Delivered surroundings statement callback before rowNumber rows
        (handing callback (handed ++ [row])) (.error f)

/-- How the first row is delivered to a callback after some events: what happens, and how it
ends. -/
inductive DeliveredFirst (surroundings : Surroundings) (statement : String) (callback : ℕ)
    (before : List Event) (rows : List Value) : List Event → Except Failure Value → Prop where
  /-- The fetch fails. -/
  | unfetched {e f : Failure} (fails : failure? surroundings before (.engine .fetch) = some e)
      (raised : Failure.RaisedByFetch e f) :
      DeliveredFirst surroundings statement callback before rows [.engine .fetch] (.error f)
  /-- There is no row. -/
  | missing {f : Failure} (fetched : failure? surroundings before (.engine .fetch) = none)
      (empty : rows = []) (raised : f.kind = .noRows)
      (named : f.facts.statement = some (.text statement)) :
      DeliveredFirst surroundings statement callback before rows [.engine .fetch] (.error f)
  /-- There is a row, and what the callback makes of it is given back. -/
  | answered {row : Value} {rest : List Value} {c : RowCallback} {v : Value}
      (fetched : failure? surroundings before (.engine .fetch) = none) (split : rows = row :: rest)
      (known : surroundings.callback? callback = some c)
      (answer : c.answer (rowsOf callback before) row = .ok v) :
      DeliveredFirst surroundings statement callback before rows
        [.engine .fetch, .row callback row] (.ok v)
  /-- There is a row, and the callback fails on it. -/
  | refused {row : Value} {rest : List Value} {c : RowCallback} {e f : Failure}
      (fetched : failure? surroundings before (.engine .fetch) = none) (split : rows = row :: rest)
      (known : surroundings.callback? callback = some c)
      (answer : c.answer (rowsOf callback before) row = .error e)
      (raised : Failure.RaisedByCallback statement 1 e f) :
      DeliveredFirst surroundings statement callback before rows
        [.engine .fetch, .row callback row] (.error f)

variable {surroundings : Surroundings} {statement : String} {callback rowNumber : ℕ}
  {before : List Event} {row : Value} {rows : List Value}

/-- A row that is fetched and handed over comes before what is delivered of the others. -/
theorem Delivered.cons {body : List Event} {outcome : Except Failure Unit}
    (hsound : faults surroundings before [Event.engine .fetch, .row callback row] = [])
    (h : Delivered surroundings statement callback
      (before ++ [Event.engine .fetch, .row callback row]) (rowNumber + 1) rows body outcome) :
    Delivered surroundings statement callback before rowNumber (row :: rows)
      ([Event.engine .fetch, .row callback row] ++ body) outcome := by
  cases h with
  | all sound =>
    rw [← List.append_assoc, ← handing_cons]
    apply Delivered.all
    rw [handing_cons, List.append_assoc, faults_append, hsound, sound, List.nil_append]
  | @unfetched handed rest e f split sound fails raised =>
    rw [← List.append_assoc, ← handing_cons]
    have hsplit : row :: rows = (row :: handed) ++ rest := by rw [split, List.cons_append]
    apply Delivered.unfetched hsplit
    · rw [handing_cons, faults_append, hsound, sound, List.nil_append]
    · rw [handing_cons, ← List.append_assoc, fails]
    · exact raised
  | @refused handed rest next e f split sound fails raised =>
    rw [← handing_cons, ← List.cons_append]
    have hsplit : row :: rows = (row :: handed) ++ next :: rest := by rw [split, List.cons_append]
    apply Delivered.refused hsplit
    · rw [handing_cons, List.append_assoc, faults_append, hsound, sound, List.nil_append]
    · rw [handing_cons, List.append_assoc, ← List.append_assoc before, fails]
    · have hnumber : rowNumber + (row :: handed).length = rowNumber + 1 + handed.length := by
        simp only [List.length_cons]
        omega
      rwa [hnumber]

namespace Operation

variable {c : RowCallback}

/-- A fetch that does not fail is one event. -/
theorem ends_fetch (adapter : Adapter)
    (h : failure? surroundings before (.engine .fetch) = none) :
    (fetch adapter surroundings.connection).Ends before (.ok ()) [Event.engine .fetch] := by
  simp only [failure?] at h
  simp only [fetch, Adapter.guarding, Run.Ends, Run.mapFailure, Connection.call, h]

/-- A fetch that fails is one event, and the driver's failures are raised as engine errors. -/
theorem ends_fetch_error (adapter : Adapter) {e : Failure}
    (h : failure? surroundings before (.engine .fetch) = some e) :
    (fetch adapter surroundings.connection).Ends before
      (.error (Failure.underDriver adapter.errorKinds e)) [Event.engine .fetch] := by
  simp only [failure?] at h
  simp only [fetch, Adapter.guarding, Run.Ends, Run.mapFailure, Connection.call, h]

/-- Handing a row to a callback is one event. -/
theorem ends_invoke (op : Operation) (hknown : surroundings.callback? callback = some c)
    (before : List Event) (row : Value) (rowNumber : ℕ) :
    (op.invoke surroundings (.callback callback) row rowNumber).Ends before
      ((c.answer (rowsOf callback before) row).mapError
        (callbackFailure op.statement.name rowNumber)) [Event.row callback row] := by
  have hhanded : (handRow surroundings (.callback callback) row).Ends before
      (c.answer (rowsOf callback before) row) [Event.row callback row] := by
    unfold handRow
    simp only [hknown]
    rfl
  exact hhanded.mapFailure _

/-- A row fails to be handed over when the callback fails on it. -/
theorem failure?_row (hknown : surroundings.callback? callback = some c) (before : List Event)
    (row : Value) :
    failure? surroundings before (.row callback row) =
      Outcome.failure? (c.answer (rowsOf callback before) row) := by
  simp [failure?, hknown]

/-- Nothing is delivered where a fetch fails. -/
theorem delivered_unfetched (statement : String) (callback rowNumber : ℕ) (rows : List Value)
    (kinds : List ErrorKind) {e : Failure}
    (h : failure? surroundings before (.engine .fetch) = some e) :
    Delivered surroundings statement callback before rowNumber rows [Event.engine .fetch]
      (.error (Failure.underDriver kinds e)) := by
  have hsplit : rows = [] ++ rows := rfl
  have hsound : faults surroundings before (handing callback []) = [] := rfl
  apply Delivered.unfetched hsplit hsound
  · rw [handing, List.flatMap_nil, List.append_nil, h]
  · exact Failure.raisedByFetch_underDriver kinds e

/-- A last fetch delivers what there is when there are no rows. -/
theorem delivered_fetch (adapter : Adapter) (surroundings : Surroundings) (statement : String)
    (callback : ℕ) (before : List Event) (rowNumber : ℕ) :
    ∃ outcome body, (fetch adapter surroundings.connection).Ends before outcome body ∧
      Delivered surroundings statement callback before rowNumber [] body outcome := by
  cases h : failure? surroundings before (.engine .fetch) with
  | none =>
    have hsound :
        faults surroundings before (handing callback [] ++ [Event.engine .fetch]) = [] := by
      rw [handing, List.flatMap_nil, List.nil_append, faults_singleton, h]
      rfl
    exact ⟨_, _, ends_fetch adapter h, Delivered.all hsound⟩
  | some e =>
    exact ⟨_, _, ends_fetch_error adapter h,
      delivered_unfetched statement callback rowNumber [] _ h⟩

/-- A row that is no value is the end of the rows. -/
theorem deliver_nothing (op : Operation) (adapter : Adapter) (surroundings : Surroundings)
    (v : Value) (rowNumber : ℕ) (rest : List Value) :
    op.deliver adapter surroundings v rowNumber (.none :: rest) =
      fetch adapter surroundings.connection := by
  funext events
  simp only [deliver, Bind.bind, Run.andThen]
  cases fetch adapter surroundings.connection events with
  | mk outcome later => cases outcome <;> rfl

/-- A row that is a value is fetched and handed over before the others. -/
theorem deliver_value (op : Operation) (adapter : Adapter) (surroundings : Surroundings)
    (v : Value) (rowNumber : ℕ) {row : Value} (rest : List Value) (h : row.isNothing = false) :
    op.deliver adapter surroundings v rowNumber (row :: rest) =
      (fetch adapter surroundings.connection >>= fun _ =>
        op.invoke surroundings v row rowNumber >>= fun _ =>
          op.deliver adapter surroundings v (rowNumber + 1) rest) := by
  cases row <;> first | rfl | cases h

/-- A row is fetched and handed over, and what comes next delivers the others. -/
theorem delivered_row (adapter : Adapter) (op : Operation)
    (hknown : surroundings.callback? callback = some c) (before : List Event) (rowNumber : ℕ)
    (row : Value) {next : Run Unit}
    (hnext : ∀ later, ∃ outcome body, next.Ends later outcome body ∧
      Delivered surroundings op.statement.name callback later (rowNumber + 1) rows body outcome) :
    ∃ outcome body,
      (fetch adapter surroundings.connection >>= fun _ =>
        op.invoke surroundings (.callback callback) row rowNumber >>= fun _ => next).Ends before
          outcome body ∧
      Delivered surroundings op.statement.name callback before rowNumber (row :: rows) body
        outcome := by
  cases hfetch : failure? surroundings before (.engine .fetch) with
  | some e =>
    exact ⟨_, _, (ends_fetch_error adapter hfetch).stop,
      delivered_unfetched _ callback rowNumber _ _ hfetch⟩
  | none =>
    have hfetched := ends_fetch adapter hfetch
    have hfailure := failure?_row hknown (before ++ [Event.engine .fetch]) row
    have hhanded := ends_invoke op hknown (before ++ [Event.engine .fetch]) row rowNumber
    cases hanswer : c.answer (rowsOf callback (before ++ [Event.engine .fetch])) row with
    | error e =>
      rw [hanswer] at hhanded hfailure
      have hsound :
          faults surroundings before (handing callback [] ++ [Event.engine .fetch]) = [] := by
        rw [handing, List.flatMap_nil, List.nil_append, faults_singleton, hfetch]
        rfl
      have hraised := Failure.raisedByCallback_callbackFailure op.statement.name rowNumber e
      have hsplit : row :: rows = [] ++ row :: rows := rfl
      exact ⟨_, _, hfetched.andThen hhanded.stop, .refused hsplit hsound hfailure hraised⟩
    | ok v =>
      rw [hanswer] at hhanded hfailure
      obtain ⟨outcome, body, hends, hdelivered⟩ :=
        hnext (before ++ [Event.engine .fetch] ++ [Event.row callback row])
      rw [List.append_assoc before] at hdelivered
      have hsound : faults surroundings before [Event.engine .fetch, .row callback row] = [] := by
        simp [faults, hfetch, hfailure, Outcome.failure?]
      exact ⟨outcome, _, hfetched.andThen (hhanded.andThen hends), hdelivered.cons hsound⟩

/-- A query delivers the rows before the first that is no value. -/
theorem delivered_deliver (adapter : Adapter) (op : Operation)
    (hknown : surroundings.callback? callback = some c) (rows : List Value) (before : List Event)
    (rowNumber : ℕ) :
    ∃ outcome body,
      (op.deliver adapter surroundings (.callback callback) rowNumber rows).Ends before outcome
        body ∧
      Delivered surroundings op.statement.name callback before rowNumber
        (Value.untilNothing rows) body outcome := by
  induction rows generalizing before rowNumber with
  | nil => exact delivered_fetch adapter surroundings _ callback before rowNumber
  | cons row rest ih =>
    cases hrow : row.isNothing with
    | true =>
      rw [Value.eq_none_of_isNothing hrow, deliver_nothing]
      exact delivered_fetch adapter surroundings _ callback before rowNumber
    | false =>
      rw [deliver_value _ _ _ _ _ _ hrow, Value.untilNothing_cons rest hrow]
      exact delivered_row adapter op hknown before rowNumber row fun later =>
        ih later (rowNumber + 1)

/-- The first row is fetched, and handed over if it is a value. -/
theorem deliverFirst_eq (op : Operation) (adapter : Adapter) (surroundings : Surroundings)
    (v : Value) :
    op.deliverFirst adapter surroundings v =
      (fetch adapter surroundings.connection >>= fun _ =>
        match Value.untilNothing surroundings.connection.rows with
        | [] => .fail (.noRows op.statement.name)
        | row :: _ => op.invoke surroundings v row 1) := by
  unfold deliverFirst
  cases surroundings.connection.rows with
  | nil => rfl
  | cons row rest => cases row <;> rfl

/-- A returning statement delivers the first row, if it is a value. -/
theorem deliveredFirst_deliverFirst (adapter : Adapter) (op : Operation)
    (hknown : surroundings.callback? callback = some c) (before : List Event) :
    ∃ outcome body,
      (op.deliverFirst adapter surroundings (.callback callback)).Ends before outcome body ∧
      DeliveredFirst surroundings op.statement.name callback before
        (Value.untilNothing surroundings.connection.rows) body outcome := by
  rw [deliverFirst_eq]
  cases hfetch : failure? surroundings before (.engine .fetch) with
  | some e =>
    exact ⟨_, _, (ends_fetch_error adapter hfetch).stop,
      .unfetched hfetch (Failure.raisedByFetch_underDriver _ e)⟩
  | none =>
    have hfetched := ends_fetch adapter hfetch
    cases hrows : Value.untilNothing surroundings.connection.rows with
    | nil => exact ⟨_, _, hfetched.andThen (Run.ends_fail _ _), .missing hfetch rfl rfl rfl⟩
    | cons row rest =>
      have hhanded := ends_invoke op hknown (before ++ [Event.engine .fetch]) row 1
      rw [rowsOf_fetch] at hhanded
      cases hanswer : c.answer (rowsOf callback before) row with
      | ok v =>
        rw [hanswer] at hhanded
        exact ⟨_, _, hfetched.andThen hhanded, .answered hfetch rfl hknown hanswer⟩
      | error e =>
        rw [hanswer] at hhanded
        exact ⟨_, _, hfetched.andThen hhanded, .refused hfetch rfl hknown hanswer
          (Failure.raisedByCallback_callbackFailure op.statement.name 1 e)⟩

end Operation

/-- A connection gives a cursor after some events, executes on it and closes it without failing. -/
structure Connection.Opens (connection : Connection) (events : List Event) : Prop where
  /-- It gives a cursor. -/
  gives : connection.failure? (calls events) .cursor = none
  /-- The cursor executes whatever it is given first. -/
  executes : ∀ sql parameters,
    connection.failure? (calls events ++ [.cursor]) (.execute sql parameters) = none
  /-- The cursor can be closed at any time. -/
  closes : ∀ earlier, connection.failure? earlier .close = none

/-- A record that is logged is nothing to a connection. -/
theorem Connection.Opens.logged {connection : Connection} {events : List Event}
    (h : connection.Opens events) (record : Log.Record) :
    connection.Opens (events ++ [Event.logged record]) := by
  have hcalls : calls (events ++ [Event.logged record]) = calls events := by
    simp [calls, List.filterMap_cons, call?]
  refine ⟨?_, ?_, h.closes⟩
  · rw [hcalls]
    exact h.gives
  · rw [hcalls]
    exact h.executes

/-- What is done while a cursor is open is done between executing the query and closing the
cursor. -/
theorem Adapter.ends_select {α : Type} (a : Adapter) {connection : Connection}
    (h : connection.Opens before) (sql : String) (parameters : List Value) {run : Run α}
    {outcome : Except Failure α} {body : List Event}
    (hbody : run.Ends (before ++ [Event.engine .cursor, .engine (.execute sql (some parameters))])
      outcome body) :
    (a.select connection .connection sql parameters run).Ends before outcome
      ([Event.engine .cursor, .engine (.execute sql (some parameters))] ++
        (body ++ [Event.engine .close])) := by
  have hcursor : (connection.call .cursor).Ends before (.ok ()) [Event.engine .cursor] := by
    simp only [Run.Ends, Connection.call, h.gives]
  have hexecute : (connection.call (.execute sql (some parameters))).Ends
      (before ++ [Event.engine .cursor]) (.ok ())
      [Event.engine (.execute sql (some parameters))] := by
    have hcalls : calls (before ++ [Event.engine .cursor]) = calls before ++ [.cursor] := by
      simp [calls, call?]
    simp only [Run.Ends, Connection.call, hcalls, h.executes]
  have hclose : ∀ later, (connection.call .close).Ends later (.ok ()) [Event.engine .close] := by
    intro later
    simp only [Run.Ends, Connection.call, h.closes]
  have hopened : (callOn connection .connection "cursor" .cursor >>= fun _ =>
      Run.onFailure (connection.call (.execute sql (some parameters)))
        (connection.call .close)).Ends before (.ok ())
      ([Event.engine .cursor] ++ [Event.engine (.execute sql (some parameters))]) :=
    Run.Ends.andThen hcursor (hexecute.onFailure_ok _)
  have hquery : (a.openQuery connection .connection sql parameters).Ends before (.ok ())
      ([Event.engine .cursor] ++ [Event.engine (.execute sql (some parameters))]) :=
    (hopened.mapFailure _).mapFailure _
  unfold select
  exact hquery.andThen (hbody.ensuring ((hclose _).mapFailure _))

namespace Operation

/-- What happens when a query is opened: it is logged and executed on a new cursor. -/
def opening (s : Statement) (q : BoundQuery) : List Event :=
  [.logged (Log.executing s q), .engine .cursor, .engine (.execute q.sql (some q.parameters))]

variable {s : Statement} {style : PlaceholderStyle} {adapter : Adapter} {op : Operation}
  {containers : Containers} {positional : List Value} {named : List (String × Value)}
  {surroundings : Surroundings} {c : RowCallback} {events : List Event} {q : BoundQuery}
  {bound : Bound}

/-- The callback of a call is the one that was given. -/
theorem MadeOf.callback_of_bind (h : MadeOf s style adapter op)
    (hkind : s.kind.takesCallback = true)
    (hbind : op.bind containers positional named = .ok bound) :
    Arguments.given s.argumentNames positional named callbackName = some bound.callback := by
  unfold bind at hbind
  rw [h.names_eq, h.statement_eq] at hbind
  obtain ⟨arguments, harguments, hrest⟩ := Outcome.bind_eq_ok_iff.mp hbind
  obtain ⟨values, _, hbound⟩ := Outcome.bind_eq_ok_iff.mp hrest
  obtain ⟨hnames, hgiven⟩ := Arguments.lookup_of_bind (Outcome.mapError_eq_ok_iff.mp harguments)
  cases hbound
  have hmem : callbackName ∈ s.argumentNames := by simp [Statement.argumentNames, hkind]
  obtain ⟨callback, hcallback⟩ := Entries.lookup_isSome_of_mem (hnames ▸ hmem)
  rw [← hgiven callbackName hmem, hcallback]
  rfl

/-- A call that is accepted prepares its query and carries it out. -/
theorem ends_call (hadapter : op.adapter = .held adapter)
    (hbind : op.bind containers positional named = .ok bound)
    (hquery : op.query containers (queriedValues op.statement.kind bound.values) = Run.result q)
    {outcome : Except Failure Value} {new : List Event}
    (h : (op.carryOut adapter surroundings bound q).Ends
      (events ++ [Event.logged (Log.executing op.statement q)]) outcome new) :
    (op.call containers surroundings positional named).Ends events outcome
      (.logged (Log.executing op.statement q) :: new) := by
  have hbound : (Run.ofExcept (.ok bound) : Run Bound).Ends events (.ok bound) [] :=
    Run.ends_ofExcept _ events
  have hprepared : (op.prepare containers (queriedValues op.statement.kind bound.values)).Ends
      events (.ok q) [Event.logged (Log.executing op.statement q)] := by
    unfold prepare
    rw [hquery]
    rfl
  rw [call_eq hadapter, hbind]
  apply hbound.andThen
  rw [List.append_nil]
  exact hprepared.andThen h

/-- A query is carried out by delivering rows on an open cursor. Nothing is given back. -/
theorem ends_carryOut_query (hkind : op.statement.kind = .query)
    (htarget : bound.target = .connection) (hopens : surroundings.connection.Opens events)
    {outcome : Except Failure Unit} {body : List Event}
    (h : (op.deliver adapter surroundings bound.callback 1 surroundings.connection.rows).Ends
      (events ++ opening op.statement q) outcome body) :
    (op.carryOut adapter surroundings bound q).Ends
      (events ++ [Event.logged (Log.executing op.statement q)]) (outcome.map fun _ => .none)
      ([Event.engine .cursor, .engine (.execute q.sql (some q.parameters))] ++
        (body ++ [Event.engine .close])) := by
  have hopened : events ++ opening op.statement q =
      events ++ [Event.logged (Log.executing op.statement q)] ++
        [Event.engine .cursor, .engine (.execute q.sql (some q.parameters))] := by simp [opening]
  rw [hopened] at h
  have hselected := adapter.ends_select (hopens.logged _) q.sql q.parameters h
  unfold carryOut
  rw [hkind, htarget]
  exact hselected.giving Value.none

/-- A returning statement is carried out by delivering the first row on an open cursor. What comes
of it is given back. -/
theorem ends_carryOut_returning (hkind : op.statement.kind = .returning)
    (htarget : bound.target = .connection) (hopens : surroundings.connection.Opens events)
    {outcome : Except Failure Value} {body : List Event}
    (h : (op.deliverFirst adapter surroundings bound.callback).Ends
      (events ++ opening op.statement q) outcome body) :
    (op.carryOut adapter surroundings bound q).Ends
      (events ++ [Event.logged (Log.executing op.statement q)]) outcome
      ([Event.engine .cursor, .engine (.execute q.sql (some q.parameters))] ++
        (body ++ [Event.engine .close])) := by
  have hopened : events ++ opening op.statement q =
      events ++ [Event.logged (Log.executing op.statement q)] ++
        [Event.engine .cursor, .engine (.execute q.sql (some q.parameters))] := by simp [opening]
  rw [hopened] at h
  unfold carryOut
  rw [hkind, htarget]
  exact adapter.ends_select (hopens.logged _) q.sql q.parameters h

/-- A call of an operation made of a compiled statement opens its query and closes it again.
Between, a query delivers the rows of the cursor, and a returning statement the first of them. -/
theorem delivers_call_of_compile {settings settings' : Settings} {text sourceName : String}
    {list : List Statement} {callback : ℕ}
    (hcompile : (compile settings text sourceName).result = .ok list) (hs : s ∈ list)
    (hmake : make s adapter settings' = .ok op)
    (hbind : op.bind containers positional named = .ok bound)
    (htarget : Arguments.given s.argumentNames positional named connectionName = some .connection)
    (hcallback : Arguments.given s.argumentNames positional named callbackName =
      some (.callback callback))
    (hknown : surroundings.callback? callback = some c)
    (hopens : surroundings.connection.Opens events) :
    ∃ q, op.query containers (queriedValues s.kind bound.values) = Run.result q ∧
      (s.kind = .query → ∃ outcome body,
        op.call containers surroundings positional named events =
          (outcome.map fun _ => .none, events ++ (opening s q ++ (body ++ [.engine .close]))) ∧
        Delivered surroundings s.name callback (events ++ opening s q) 1
          (Value.untilNothing surroundings.connection.rows) body outcome) ∧
      (s.kind = .returning → ∃ outcome body,
        op.call containers surroundings positional named events =
          (outcome, events ++ (opening s q ++ (body ++ [.engine .close]))) ∧
        DeliveredFirst surroundings s.name callback (events ++ opening s q)
          (Value.untilNothing surroundings.connection.rows) body outcome) := by
  obtain ⟨_, _, _, hcompiles⟩ := (of_result_compile hcompile).1 s hs
  have hmade := madeOf_of_make hcompiles.fit hmake
  obtain ⟨hnodup, hgiven, hsupplied⟩ := hmade.bind_ok hcompiles.fit hbind
  obtain ⟨hqueried, hqueriedSupplied⟩ := supplied_queriedValues hcompiles.fit hnodup hsupplied
  obtain ⟨q, _, hquery, _, _⟩ :=
    hmade.query_filled hcompiles.fit containers hqueried hqueriedSupplied
  have hconnection : bound.target = .connection := Option.some.inj (hgiven.symm.trans htarget)
  have hhanded : s.kind.takesCallback = true → bound.callback = .callback callback :=
    fun htakes => Option.some.inj ((hmade.callback_of_bind htakes hbind).symm.trans hcallback)
  obtain rfl := hmade.statement_eq
  refine ⟨q, hquery, ?_, ?_⟩
  · intro hkind
    obtain ⟨outcome, body, hends, hdelivered⟩ :=
      delivered_deliver adapter op hknown surroundings.connection.rows
        (events ++ opening op.statement q) 1
    rw [← hhanded (by rw [hkind]; rfl)] at hends
    have hcarried := ends_carryOut_query hkind hconnection hopens hends
    exact ⟨outcome, body, ends_call hmade.adapter_eq hbind hquery hcarried, hdelivered⟩
  · intro hkind
    obtain ⟨outcome, body, hends, hdelivered⟩ :=
      deliveredFirst_deliverFirst adapter op hknown (events ++ opening op.statement q)
    rw [← hhanded (by rw [hkind]; rfl)] at hends
    have hcarried := ends_carryOut_returning hkind hconnection hopens hends
    exact ⟨outcome, body, ends_call hmade.adapter_eq hbind hquery hcarried, hdelivered⟩

/-- Three rows, the first two of which count as false, and a callback that fails on the second as a
driver does. -/
def refusing : Surroundings :=
  { connection := .scripted [.int 0, .text "", .int 5] none []
    callback? := fun _ => some (.failingAt (.int 2) (.plain .driverOperational "locked")) }

/-- A failure of the callback on a row that counts as false is told to be that, and the rows before
are delivered, although the adapter takes every error for the driver's. -/
theorem delivers_call_refused :
    ∃ s op q outcome body,
      (compile .standard "-- name: all?\nselect 1\n/\n" "<string>").result = .ok [s] ∧
      make s (.generic .standard none) .standard = .ok op ∧
      op.call (fun _ _ => .operation) refusing [.connection, .callback 0] [] [] =
        (outcome.map fun _ => .none, [] ++ (opening s q ++ (body ++ [.engine .close]))) ∧
      Delivered refusing "all" 0 ([] ++ opening s q) 1 [.int 0, .text "", .int 5] body outcome ∧
      ∃ f, outcome = .error f ∧ f.kind = .rowCallback ∧ f.facts.rowNumber = some (.int 2) := by
  let all : Statement :=
    { name := "all"
      kind := .query
      parameters := []
      tokens := [.literal "select 1"]
      doc := ""
      block := some ⟨"-- name: all?\nselect 1", 1, 2, "<string>"⟩ }
  have hcompile : (compile .standard "-- name: all?\nselect 1\n/\n" "<string>").result =
      .ok [all] := by decide +kernel
  have hmake : ∃ op, make all (.generic .standard none) .standard = .ok op ∧
      (∃ bound, op.bind (fun _ _ => .operation) [.connection, .callback 0] [] = .ok bound) ∧
      ∃ f, (op.call (fun _ _ => .operation) refusing [.connection, .callback 0] [] []).1 =
        .error f ∧ f.kind = .rowCallback ∧ f.facts.rowNumber = some (.int 2) :=
    ⟨_, rfl, ⟨_, rfl⟩, _, rfl, rfl, rfl⟩
  obtain ⟨op, hop, ⟨bound, hbound⟩, f, hfails, hf⟩ := hmake
  have hopens : refusing.connection.Opens [] := ⟨rfl, fun _ _ => rfl, fun _ => rfl⟩
  obtain ⟨q, _, hquery, _⟩ := delivers_call_of_compile hcompile List.mem_cons_self hop hbound rfl
    rfl (show refusing.callback? 0 = some _ from rfl) hopens
  obtain ⟨outcome, body, hcall, hdelivered⟩ := hquery rfl
  rw [hcall] at hfails
  exact ⟨all, op, q, outcome, body, hcompile, hop, hcall, hdelivered, f,
    Outcome.map_eq_error_iff.mp hfails, hf⟩

/-- Settings that fix the style of placeholders. -/
def numbered : Settings :=
  { Settings.standard with style := some .standard }

/-- An error that shows a number that is too long. -/
def overlong : Failure :=
  { kind := .error, arguments := [.int (Decimal.tenTo Value.longestNumber)] }

/-- A single row, and a callback that fails on it. -/
def grumbling : Surroundings :=
  { connection := .scripted [.int 0] none []
    callback? := fun _ => some (.failingAt (.int 1) overlong) }

/-- An error that shows a number that is too long has no message. -/
theorem text_overlong : overlong.text = .error .unshowable := by
  have hlong : (Value.int (Decimal.tenTo Value.longestNumber)).isShowable = false := by
    rw [Value.isShowable, Int.natAbs_natCast]
    exact decide_eq_false (Nat.lt_irrefl _)
  exact Failure.text_of_not_isShowable rfl List.mem_cons_self hlong

/-- A statement that is called like the adapter of a container. -/
def replacing : Statement :=
  { name := "adapter"
    kind := .execute
    parameters := []
    tokens := [.literal "select 1"]
    doc := ""
    block := some ⟨"-- name: adapter!\nselect 1", 1, 2, "<string>"⟩ }

/-- A query after it. -/
def querying : Statement :=
  { name := "all"
    kind := .query
    parameters := []
    tokens := [.literal "select 1"]
    doc := ""
    block := some ⟨"-- name: all?\nselect 1", 4, 5, "<string>"⟩ }

/-- A query that is loaded after a statement called like the adapter calls what stands in the place
of that, and hands no row over. An error of a callback that has no message is not told to be one of
the callback. -/
theorem undelivered_replaced_and_untold :
    ((compile numbered "-- name: adapter!\nselect 1\n/\n-- name: all?\nselect 1\n/\n"
        "<string>").result = .ok [replacing, querying] ∧
      ∃ r op, (Registry.empty .standard numbered).loadAll [replacing, querying] = (r, none) ∧
        r.operation? "all" = some op ∧
        ∀ containers surroundings, ∃ q,
          op.call containers surroundings [.connection, .callback 0] [] [] =
            (.error (missingAttribute "function" "select"),
              [.logged (Log.executing querying q)])) ∧
    ∃ op f, make querying .standard .standard = .ok op ∧
      (op.call (fun _ _ => .operation) grumbling [.connection, .callback 0] [] []).1 = .error f ∧
      overlong.kind = .error ∧ ¬ Failure.NamesRow "all" 1 overlong f := by
  constructor
  · refine ⟨by decide +kernel,
      ((Registry.empty .standard numbered).loadAll [replacing, querying]).1, _, rfl, rfl, ?_⟩
    intro containers surroundings
    exact ⟨_, rfl⟩
  · have hraised := Failure.raisedByCallback_callbackFailure "all" 1 overlong
    refine ⟨_, callbackFailure "all" 1 overlong, rfl, rfl, rfl, ?_⟩
    intro hnames
    have hown := (hraised.untold rfl rfl _ text_overlong).2
    rw [hnames.kind_eq] at hown
    cases hown

end Operation

end AnnotatedSql
