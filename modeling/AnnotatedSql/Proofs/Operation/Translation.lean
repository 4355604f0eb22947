import AnnotatedSql.Proofs.Engine.Translation
import AnnotatedSql.Proofs.Operation.Cursor

/-!
# Calls translate the failures of the engine

If one event of the engine fails during a call, and nothing else does, the call fails. What it
raises is an engine error if the failure is the driver's, and else the failure itself. There is one
exception: a cursor that shows no row count does not make a call fail.
-/

set_option autoImplicit false

namespace AnnotatedSql

open Event

namespace Operation

variable {op : Operation} {style : PlaceholderStyle} {adapter : Adapter}
  {surroundings : Surroundings}

/-- Preparing a query has no failure of the engine to react to. -/
theorem reacts_prepare (h : op.style = .held style) (containers : Containers)
    (values : List (String × Value)) :
    (op.prepare containers values).Reacts surroundings Never := by
  obtain ⟨outcome, hquery⟩ := query_eq_ofExcept h containers values
  unfold prepare
  rw [hquery]
  apply (Run.reacts_ofExcept outcome).after
  intro q
  have hlogged : (Run.emit (.logged (Log.executing op.statement q))).Reacts surroundings Never :=
    Run.reacts_event (.logged _) fun _ => ⟨_, rfl, fun _ _ hengine => by cases hengine⟩
  exact hlogged.after fun _ => Run.reacts_result q

/-- Fetching a row fails as the driver does, with a failure that may be changed. -/
theorem reacts_fetch (adapter : Adapter) (surroundings : Surroundings) :
    (fetch adapter surroundings.connection).Reacts surroundings
      (FailsWith IsCall (Failure.underDriver adapter.errorKinds)) := by
  unfold fetch Adapter.guarding
  apply Run.Reacts.mapFailure_failsWith
  exact Connection.reacts_call surroundings .fetch

/-- Handing a row to the callback has no failure of the engine to react to. -/
theorem reacts_invoke (op : Operation) (surroundings : Surroundings) (callback row : Value)
    (rowNumber : ℕ) :
    (op.invoke surroundings callback row rowNumber).Reacts surroundings Never := by
  have hhanded : (handRow surroundings callback row).Reacts surroundings Never := by
    unfold handRow
    split
    · next number =>
      split
      · exact Run.reacts_event (.row number row) fun _ =>
          ⟨_, rfl, fun _ _ hengine => by cases hengine⟩
      · exact Run.reacts_result _
    · exact Run.reacts_fail _
  unfold invoke
  exact hhanded.mapFailure fun _ _ _ h => h

/-- The driver's failures as engine errors are a translation, whatever is left open. -/
theorem translates_of_isCall {α : Type} (adapter : Adapter) (isOpen : Event → Prop) {event : Event}
    (e : Failure) (h : IsCall event) :
    (adapter.Translates isOpen : Reaction α) event e
      (.error (Failure.underDriver adapter.errorKinds e)) :=
  ⟨h, _, rfl, Failure.becomes_underDriver _ _ e⟩

/-- Handing rows to the callback translates the failures of calls. -/
theorem reacts_deliver (op : Operation) (adapter : Adapter) (surroundings : Surroundings)
    (callback : Value) (isOpen : Event → Prop) (rowNumber : ℕ) (rows : List Value) :
    (op.deliver adapter surroundings callback rowNumber rows).Reacts surroundings
      (adapter.Translates isOpen) := by
  have hfetch := reacts_fetch adapter surroundings
  induction rows generalizing rowNumber with
  | nil =>
    apply hfetch.mono
    rintro event e outcome ⟨hcall, rfl⟩
    exact translates_of_isCall adapter isOpen e hcall
  | cons row rest ih =>
    unfold deliver
    apply hfetch.andThen fun _ e => translates_of_isCall adapter isOpen e
    intro _
    split
    · exact Run.reacts_result _
    · exact (reacts_invoke op surroundings callback row rowNumber).after
        fun _ => ih (rowNumber + 1)

/-- Handing the first row to the callback translates the failures of calls. -/
theorem reacts_deliverFirst (op : Operation) (adapter : Adapter) (surroundings : Surroundings)
    (callback : Value) (isOpen : Event → Prop) :
    (op.deliverFirst adapter surroundings callback).Reacts surroundings
      (adapter.Translates isOpen) := by
  unfold deliverFirst
  apply (reacts_fetch adapter surroundings).andThen fun _ e =>
    translates_of_isCall adapter isOpen e
  intro _
  split
  · exact Run.reacts_fail _
  · exact Run.reacts_fail _
  · exact (reacts_invoke op surroundings callback _ 1).mono fun _ _ _ h => h.elim

/-- The cursor of a statement that hands over rows is closed. -/
def ClosesRows (kind : StatementKind) (event : Event) : Prop :=
  event = .engine .close ∧ kind.takesCallback = true

/-- What comes of a call in which a single event of the engine fails. -/
structure Translated (kind : StatementKind) (adapter : Adapter) (event : Event) (e : Failure)
    (outcome : Except Failure Value) : Prop where
  /-- A cursor that is asked and shows no row count is no failure. Minus one stands for it. -/
  missing : event.MissesCount e → outcome = .ok (.int (-1))
  /-- Everything else is a failure, and an engine error if it is the driver's. That is left open for
  closing the cursor of a statement that hands over rows. -/
  fails : ¬ event.MissesCount e → ∃ f, outcome = .error f ∧
    Failure.Becomes adapter.errorKinds (ClosesRows kind event) e f

/-- What is translated for calls comes of a call. -/
theorem translated_of_translates {kind : StatementKind} {event : Event} {e : Failure}
    {outcome : Except Failure Value}
    (h : adapter.Translates (ClosesRows kind) event e outcome) :
    Translated kind adapter event e outcome :=
  ⟨fun hmissing => absurd hmissing (h.1.not_missesCount e), fun _ => h.2⟩

/-- What counts rows comes of a call, with the driver's failures as engine errors. -/
theorem translated_of_countsOrFails (kind : StatementKind) {event : Event} {e : Failure}
    {outcome : Except Failure Value}
    (h : CountsOrFails (Failure.underDriver adapter.errorKinds) event e outcome) :
    Translated kind adapter event e outcome :=
  ⟨h.missing, fun hfound => ⟨_, h.fails hfound, Failure.becomes_underDriver _ _ e⟩⟩

/-- Carrying out a query translates the only failure of the engine. -/
theorem reacts_carryOut (op : Operation) (adapter : Adapter) (surroundings : Surroundings)
    (bound : Bound) (q : BoundQuery) :
    (op.carryOut adapter surroundings bound q).Reacts surroundings
      (Translated op.statement.kind adapter) := by
  unfold carryOut
  cases op.statement.kind with
  | query =>
    -- Closing the cursor after the rows is the one call that is not translated.
    have hclosing : ClosesRows .query (.engine .close) := ⟨rfl, rfl⟩
    apply (adapter.reacts_select surroundings bound.target q.sql q.parameters hclosing
      (reacts_deliver op adapter surroundings bound.callback _ 1 _)).giving
    rintro event e outcome ⟨hcall, f, rfl, hbecomes⟩
    exact ⟨f, rfl, translated_of_translates ⟨hcall, f, rfl, hbecomes⟩⟩
  | execute =>
    exact (adapter.reacts_execute surroundings bound.target q.sql q.parameters).mono
      fun _ _ _ => translated_of_countsOrFails _
  | batch =>
    apply (adapter.reacts_executeScript surroundings bound.target q.sql).giving
    rintro event e outcome ⟨hcall, rfl⟩
    exact ⟨_, rfl, translated_of_translates (translates_of_isCall adapter _ e hcall)⟩
  | returning =>
    have hclosing : ClosesRows .returning (.engine .close) := ⟨rfl, rfl⟩
    exact (adapter.reacts_select surroundings bound.target q.sql q.parameters hclosing
      (reacts_deliverFirst op adapter surroundings bound.callback _)).mono
        fun _ _ _ => translated_of_translates

/-- A call translates the only failure of the engine. -/
theorem reacts_call (hstyle : op.style = .held style) (hadapter : op.adapter = .held adapter)
    (containers : Containers) (surroundings : Surroundings) (positional : List Value)
    (named : List (String × Value)) :
    (op.call containers surroundings positional named).Reacts surroundings
      (Translated op.statement.kind adapter) := by
  rw [call_eq hadapter]
  apply (Run.reacts_ofExcept _).after
  intro bound
  apply (reacts_prepare hstyle containers _).after
  exact reacts_carryOut op adapter surroundings bound

/-- If a single event of the engine fails during a call of an operation, and no callback does, the
call translates the failure: it raises an engine error if the failure is the driver's, and else the
failure itself. -/
theorem translated_call {s : Statement} {settings : Settings}
    (hmake : make s adapter settings = .ok op) (containers : Containers)
    (surroundings : Surroundings) (positional : List Value) (named : List (String × Value))
    (events : List Event) :
    ∃ outcome new,
      op.call containers surroundings positional named events = (outcome, events ++ new) ∧
        ∀ event e, Event.faults surroundings events new = [(event, e)] →
          event.isOfEngine = true → Translated s.kind adapter event e outcome := by
  obtain ⟨hstyle, hadapter⟩ := slots_of_make hmake
  obtain ⟨outcome, new, hends, hreact⟩ :=
    reacts_call hstyle hadapter containers surroundings positional named events
  rw [statement_of_make hmake] at hreact
  exact ⟨outcome, new, hends, hreact⟩

/-- A connection whose calls of one name fail as the driver does. -/
def failingOn (name : String) : Surroundings :=
  { connection := .scripted [] none [⟨name, none, .plain .driverOperational "locked"⟩]
    callback? := fun _ => none }

/-- A fetch that fails is translated. -/
theorem translated_call_fetch :
    ∃ op outcome new,
      make ⟨"all", .query, [], [.literal "select 1"], "", none⟩ .standard .standard = .ok op ∧
      op.call (fun _ _ => .operation) (failingOn "fetchone") [.connection, .callback 0] [] [] =
        (outcome, [] ++ new) ∧
      Translated .query .standard (.engine .fetch) (.plain .driverOperational "locked")
        outcome := by
  have hmake : ∃ op,
      make ⟨"all", .query, [], [.literal "select 1"], "", none⟩ .standard .standard = .ok op ∧
        Event.faults (failingOn "fetchone") [] (op.call (fun _ _ => .operation)
          (failingOn "fetchone") [.connection, .callback 0] [] []).2 =
            [(.engine .fetch, .plain .driverOperational "locked")] := ⟨_, rfl, rfl⟩
  obtain ⟨op, hop, hfaults⟩ := hmake
  obtain ⟨outcome, new, hcall, htranslated⟩ := translated_call hop (fun _ _ => .operation)
    (failingOn "fetchone") [.connection, .callback 0] [] []
  rw [hcall, List.nil_append] at hfaults
  exact ⟨op, outcome, new, hop, hcall, htranslated _ _ hfaults rfl⟩

/-- The only failure of the engine during a call is the driver's, and no engine error is raised. -/
def Untranslated (s : Statement) (adapter : Adapter) (surroundings : Surroundings)
    (positional : List Value) : Prop :=
  ∃ op outcome new event e, make s adapter .standard = .ok op ∧
    op.call (fun _ _ => .operation) surroundings positional [] [] = (outcome, new) ∧
    Event.faults surroundings [] new = [(event, e)] ∧ event.isOfEngine = true ∧
    e.kind.isLibrary = false ∧ e.isAny adapter.errorKinds = true ∧
    ∀ f, outcome = .error f → f.kind ≠ .engine

/-- A cursor that shows no row count, and one that fails to close after a query, raise no engine
error. -/
theorem untranslated_count_and_close :
    Untranslated ⟨"touch", .execute, [], [.literal "update t set a = 1"], "", none⟩
        (.generic .standard none) .empty [.connection] ∧
      Untranslated ⟨"all", .query, [], [.literal "select 1"], "", none⟩ (.generic .standard none)
        (failingOn "close") [.connection, .callback 0] := by
  constructor
  · refine ⟨_, _, _, _, _, rfl, rfl, rfl, rfl, rfl, rfl, ?_⟩
    intro f hf
    cases hf
  · refine ⟨_, _, _, _, _, rfl, rfl, rfl, rfl, rfl, rfl, ?_⟩
    intro f hf
    cases hf
    decide

end Operation

end AnnotatedSql
