import AnnotatedSql.Engine.Adapter
import AnnotatedSql.Proofs.Engine.Ending
import AnnotatedSql.Proofs.Failure.Message

/-!
# What becomes of a failure of the engine

An event of a run can fail: a call, a look at the row count, a callback that is handed a row. Where
only one does, the run reacts to it in one way. The lemmas here say so for each way of putting runs
together, and for what adapters do.
-/

set_option autoImplicit false

namespace AnnotatedSql

/-- The failure of an outcome, if it is one. -/
def Outcome.failure? {α : Type} : Except Failure α → Option Failure
  | .ok _ => none
  | .error e => some e

/-- The failure of an outcome is what it is. -/
theorem Outcome.failure?_eq_some_iff {α : Type} {outcome : Except Failure α} {e : Failure} :
    failure? outcome = some e ↔ outcome = .error e := by
  cases outcome <;> simp [failure?]

/-- A result has no failure. -/
theorem Outcome.failure?_eq_none_iff {α : Type} {outcome : Except Failure α} :
    failure? outcome = none ↔ ∃ a, outcome = .ok a := by
  cases outcome <;> simp [failure?]

namespace Event

/-- The failure of an event after the events before, if it fails. -/
def failure? (surroundings : Surroundings) (before : List Event) : Event → Option Failure
  | engine c => surroundings.connection.failure? (calls before) c
  | countAsked | countRead => Outcome.failure? (surroundings.connection.rowCount before)
  | row number v => (surroundings.callback? number).bind fun c =>
    Outcome.failure? (c.answer (rowsOf number before) v)
  | ended _ | logged _ => none

/-- It is the engine that does what happens. -/
def isOfEngine : Event → Bool
  | engine _ | ended _ | countAsked | countRead => true
  | row .. | logged _ => false

/-- The events that fail among events, after others, each with its failure. -/
def faults (surroundings : Surroundings) (before : List Event) : List Event → List (Event × Failure)
  | [] => []
  | event :: rest =>
    ((event.failure? surroundings before).map fun e => (event, e)).toList ++
      faults surroundings (before ++ [event]) rest

variable {surroundings : Surroundings} {before : List Event}

/-- What fails among some events and others after them. -/
theorem faults_append (new more : List Event) :
    faults surroundings before (new ++ more) =
      faults surroundings before new ++ faults surroundings (before ++ new) more := by
  induction new generalizing before with
  | nil => simp [faults]
  | cons event rest ih => simp [faults, ih]

/-- A single event fails or not. -/
theorem faults_singleton (event : Event) :
    faults surroundings before [event] =
      ((event.failure? surroundings before).map fun e => (event, e)).toList := by
  simp [faults]

/-- The only event that fails is a single event. -/
theorem faults_singleton_iff {event event' : Event} {e : Failure} :
    faults surroundings before [event] = [(event', e)] ↔
      event.failure? surroundings before = some e ∧ event' = event := by
  rw [faults_singleton]
  cases event.failure? surroundings before with
  | none => simp
  | some e' => simp [and_comm, eq_comm]

/-- With a last event that does not fail, only those before it fail. -/
theorem faults_concat_of_none {new : List Event} {event : Event}
    (h : event.failure? surroundings (before ++ new) = none) :
    faults surroundings before (new ++ [event]) = faults surroundings before new := by
  rw [faults_append, faults_singleton, h]
  simp

/-- A last event that fails is the one that does if there is only one. -/
theorem eq_of_faults_concat {new : List Event} {event event' : Event} {e f : Failure}
    (h : event.failure? surroundings (before ++ new) = some f)
    (hfaults : faults surroundings before (new ++ [event]) = [(event', e)]) :
    event' = event ∧ e = f := by
  rw [faults_append, faults_singleton, h, List.append_eq_singleton_iff] at hfaults
  rcases hfaults with ⟨_, hfaults⟩ | ⟨_, hfaults⟩
  · cases hfaults
    exact ⟨rfl, rfl⟩
  · cases hfaults

end Event

open Event

/-- What comes of the only failure of a run: the event that fails, the failure and the outcome. -/
abbrev Reaction (α : Type) : Type := Event → Failure → Except Failure α → Prop

/-- The run fails by the failure, which may be changed, and some events are all that may fail. -/
def FailsWith {α : Type} (mayFail : Event → Prop) (change : Failure → Failure) : Reaction α :=
  fun event e outcome => mayFail event ∧ outcome = .error (change e)

/-- No event of the engine is the only one that fails. -/
def Never {α : Type} : Reaction α :=
  fun _ _ _ => False

/-- The event is a call. -/
def Event.IsCall (event : Event) : Prop :=
  ∃ c, event = .engine c

namespace Run

variable {α β : Type} {surroundings : Surroundings} {react : Reaction α} {mayFail : Event → Prop}
  {change : Failure → Failure}

/-- If only one event of a run fails, and it is one of the engine, the run reacts to that. -/
def Reacts (surroundings : Surroundings) (run : Run α) (react : Reaction α) : Prop :=
  ∀ events, ∃ outcome new, run.Ends events outcome new ∧ ∀ event e,
    faults surroundings events new = [(event, e)] → event.isOfEngine = true →
      react event e outcome

/-- A run that reacts in a way reacts in any way that follows. -/
theorem Reacts.mono {run : Run α} {react' : Reaction α} (h : run.Reacts surroundings react)
    (himp : ∀ event e outcome, react event e outcome → react' event e outcome) :
    run.Reacts surroundings react' := by
  intro events
  obtain ⟨outcome, new, hends, hreact⟩ := h events
  exact ⟨outcome, new, hends, fun event e hfaults hengine =>
    himp event e outcome (hreact event e hfaults hengine)⟩

/-- A computation without events has nothing to react to. -/
theorem reacts_ofExcept (outcome : Except Failure α) :
    (ofExcept outcome).Reacts surroundings react := by
  intro events
  refine ⟨outcome, [], ends_ofExcept outcome events, ?_⟩
  intro event e hfaults
  simp [faults] at hfaults

/-- A result has nothing to react to. -/
theorem reacts_result (a : α) : (result a).Reacts surroundings react :=
  reacts_ofExcept (.ok a)

/-- A failure without events has nothing to react to. -/
theorem reacts_fail (e : Failure) : (fail e).Reacts surroundings react :=
  reacts_ofExcept (.error e)

/-- A run of one event reacts to its failure, if the event is one of the engine. -/
theorem reacts_event {run : Run α} (event : Event)
    (h : ∀ events, ∃ outcome, run.Ends events outcome [event] ∧ ∀ e,
      event.failure? surroundings events = some e → event.isOfEngine = true →
        react event e outcome) : run.Reacts surroundings react := by
  intro events
  obtain ⟨outcome, hends, hreact⟩ := h events
  refine ⟨outcome, [event], hends, ?_⟩
  rintro event' e hfaults hengine
  obtain ⟨hfailure, rfl⟩ := faults_singleton_iff.mp hfaults
  exact hreact e hfailure hengine

/-- A run that fails by its only failure reacts like that also with another after it. -/
theorem Reacts.andThen {first : Run α} {next : α → Run β} {react : Reaction β}
    (hfirst : first.Reacts surroundings (FailsWith mayFail change))
    (hstop : ∀ event e, mayFail event → react event e (.error (change e)))
    (hnext : ∀ a, (next a).Reacts surroundings react) :
    (first >>= next).Reacts surroundings react := by
  intro events
  obtain ⟨outcome, new, hends, hfails⟩ := hfirst events
  cases outcome with
  | error f =>
    refine ⟨_, new, hends.stop, ?_⟩
    intro event e hfaults hengine
    obtain ⟨hmay, houtcome⟩ := hfails event e hfaults hengine
    cases houtcome
    exact hstop event e hmay
  | ok a =>
    obtain ⟨outcome', more, hmore, hreact⟩ := hnext a (events ++ new)
    refine ⟨outcome', new ++ more, hends.andThen hmore, ?_⟩
    intro event e hfaults hengine
    rw [faults_append, List.append_eq_singleton_iff] at hfaults
    rcases hfaults with ⟨_, hfaults⟩ | ⟨hfaults, _⟩
    · exact hreact event e hfaults hengine
    · cases (hfails event e hfaults hengine).2

/-- A run reacts as it does also after another that has nothing to react to. -/
theorem Reacts.after {first : Run α} {next : α → Run β} {react : Reaction β}
    (hfirst : first.Reacts surroundings Never) (hnext : ∀ a, (next a).Reacts surroundings react) :
    (first >>= next).Reacts surroundings react := by
  have hfails : first.Reacts surroundings (FailsWith (fun _ => False) id) :=
    hfirst.mono fun _ _ _ h => h.elim
  exact hfails.andThen (fun _ _ h => h.elim) hnext

/-- A run that fails by its only failure does so whatever result is given in place of its own. -/
theorem Reacts.giving {run : Run α} {react' : Reaction β} (h : run.Reacts surroundings react)
    (hfails : ∀ event e outcome, react event e outcome →
      ∃ f, outcome = .error f ∧ react' event e (.error f)) (b : β) :
    (run >>= fun _ => result b).Reacts surroundings react' := by
  intro events
  obtain ⟨outcome, new, hends, hreact⟩ := h events
  cases outcome with
  | error f =>
    refine ⟨_, new, hends.stop, ?_⟩
    intro event e hfaults hengine
    obtain ⟨f', houtcome, hreact'⟩ := hfails event e _ (hreact event e hfaults hengine)
    cases houtcome
    exact hreact'
  | ok a =>
    refine ⟨_, new ++ [], hends.andThen (ends_result b _), ?_⟩
    intro event e hfaults hengine
    rw [List.append_nil] at hfaults
    obtain ⟨f', houtcome, _⟩ := hfails event e _ (hreact event e hfaults hengine)
    cases houtcome

/-- A run is a single event, and fails as the event does, with a change. -/
def IsEvent (surroundings : Surroundings) (run : Run Unit) (event : Event)
    (change : Failure → Failure) : Prop :=
  ∀ events, run.Ends events
    (match event.failure? surroundings events with
      | none => .ok ()
      | some e => .error (change e)) [event]

/-- What is done in any case reacts to its own failure, and leaves the reaction of the run. -/
theorem Reacts.ensuring {run : Run α} {action : Run Unit} {event : Event}
    (h : run.Reacts surroundings react) (haction : action.IsEvent surroundings event change)
    (hreact : ∀ e, react event e (.error (change e))) :
    (run.ensuring action).Reacts surroundings react := by
  intro events
  obtain ⟨outcome, new, hends, hfails⟩ := h events
  have hdone := haction (events ++ new)
  cases hfailure : event.failure? surroundings (events ++ new) with
  | none =>
    rw [hfailure] at hdone
    refine ⟨outcome, new ++ [event], hends.ensuring hdone, ?_⟩
    rwa [faults_concat_of_none hfailure]
  | some f =>
    rw [hfailure] at hdone
    refine ⟨_, new ++ [event], hends.ensuring_error hdone, ?_⟩
    intro event' e hfaults _
    obtain ⟨rfl, rfl⟩ := eq_of_faults_concat hfailure hfaults
    exact hreact e

/-- What is done after a failure reacts to its own failure, and leaves the reaction of the run. -/
theorem Reacts.onFailure {run : Run α} {action : Run Unit} {event : Event}
    (h : run.Reacts surroundings react) (haction : action.IsEvent surroundings event change)
    (hreact : ∀ e, react event e (.error (change e))) :
    (run.onFailure action).Reacts surroundings react := by
  intro events
  obtain ⟨outcome, new, hends, hfails⟩ := h events
  cases outcome with
  | ok a => exact ⟨.ok a, new, hends.onFailure_ok action, hfails⟩
  | error f =>
    have hdone := haction (events ++ new)
    cases hfailure : event.failure? surroundings (events ++ new) with
    | none =>
      rw [hfailure] at hdone
      refine ⟨_, new ++ [event], hends.onFailure hdone, ?_⟩
      rwa [faults_concat_of_none hfailure]
    | some f' =>
      rw [hfailure] at hdone
      refine ⟨_, new ++ [event], hends.onFailure_error hdone, ?_⟩
      intro event' e hfaults _
      obtain ⟨rfl, rfl⟩ := eq_of_faults_concat hfailure hfaults
      exact hreact e

/-- A run whose failure is changed reacts with the change. -/
theorem Reacts.mapFailure {run : Run α} {react' : Reaction α} (h : run.Reacts surroundings react)
    {change : Failure → Failure}
    (himp : ∀ event e outcome, react event e outcome →
      react' event e (outcome.mapError change)) :
    (run.mapFailure change).Reacts surroundings react' := by
  intro events
  obtain ⟨outcome, new, hends, hreact⟩ := h events
  exact ⟨_, new, hends.mapFailure change, fun event e hfaults hengine =>
    himp event e outcome (hreact event e hfaults hengine)⟩

/-- A failure may be changed again. -/
theorem Reacts.mapFailure_failsWith {run : Run α}
    (h : run.Reacts surroundings (FailsWith mayFail change)) (change' : Failure → Failure) :
    (run.mapFailure change').Reacts surroundings (FailsWith mayFail (change' ∘ change)) := by
  apply h.mapFailure
  rintro event e outcome ⟨hmay, rfl⟩
  exact ⟨hmay, rfl⟩

end Run

/-- A cursor that is asked for its row count shows none. -/
def Event.MissesCount (event : Event) (e : Failure) : Prop :=
  event = .countAsked ∧ e.kind.isBelow .attributeAccess = true

/-- A call is no look at the row count. -/
theorem Event.IsCall.not_missesCount {event : Event} (h : event.IsCall) (e : Failure) :
    ¬ event.MissesCount e := by
  obtain ⟨c, rfl⟩ := h
  rintro ⟨hasked, _⟩
  cases hasked

/-- The run fails by the failure, which may be changed, unless that tells that a cursor shows no row
count: then minus one stands for it. -/
structure CountsOrFails (change : Failure → Failure) (event : Event) (e : Failure)
    (outcome : Except Failure Value) : Prop where
  /-- Minus one stands for a row count that is missing. -/
  missing : event.MissesCount e → outcome = .ok (.int (-1))
  /-- Everything else is a failure. -/
  fails : ¬ event.MissesCount e → outcome = .error (change e)

/-- A call that fails makes a run fail that counts rows. -/
theorem countsOrFails_of_isCall {event : Event} {change : Failure → Failure} (h : event.IsCall)
    (e : Failure) : CountsOrFails change event e (.error (change e)) :=
  ⟨fun hmissing => absurd hmissing (h.not_missesCount e), fun _ => rfl⟩

/-- What is raised for a failure of the engine where failures of some kinds are the driver's. That
the driver's failures become engine errors may be left open. It is left open for those without a
message too. -/
structure Failure.Becomes (kinds : List ErrorKind) (isOpen : Prop) (e f : Failure) : Prop where
  /-- The driver's failures become engine errors that say what they said. -/
  driver : ¬ isOpen → e.kind.isLibrary = false → e.isAny kinds = true → ∀ message,
    e.text = .ok message → f = ofLibrary .engine ("Database engine error: " ++ message) {} (some e)
  /-- The library's own failures pass. -/
  library : e.kind.isLibrary = true → f = e
  /-- So do all others but signals that an iteration ends. -/
  foreign : e.isAny kinds = false → e.kind.isBelow .stopIteration = false → f = e

/-- The driver's failures become engine errors, and all others pass. -/
theorem Failure.becomes_underDriver (kinds : List ErrorKind) (isOpen : Prop) (e : Failure) :
    Becomes kinds isOpen e (underDriver kinds e) := by
  unfold underDriver
  constructor
  · intro _ hforeign hdriver message htext
    rw [if_neg (by simp [hforeign]), if_pos hdriver, engine_of_text htext]
  · intro hlibrary
    simp [hlibrary]
  · intro hforeign _
    simp [hforeign]

/-- None of the library's failures is a signal that an iteration ends. -/
theorem ErrorKind.not_isBelow_stopIteration {k : ErrorKind} (h : k.isLibrary = true) :
    k.isBelow .stopIteration = false := by
  cases k <;> first | rfl | cases h

/-- Only a signal that an iteration ends is changed where a query opens or closes. -/
theorem Adapter.iterationSignal_eq {e : Failure} (h : e.kind.isBelow .stopIteration = false) :
    iterationSignal e = e := by
  simp [iterationSignal, h]

/-- It makes no difference that a query is opening. -/
theorem Failure.becomes_iterationSignal_underDriver (kinds : List ErrorKind) (isOpen : Prop)
    (e : Failure) :
    Becomes kinds isOpen e (Adapter.iterationSignal (underDriver kinds e)) := by
  obtain ⟨hdriver, hlibrary, hforeign⟩ := becomes_underDriver kinds isOpen e
  constructor
  · intro hsettled hown hany message htext
    rw [hdriver hsettled hown hany message htext]
    rfl
  · intro hown
    rw [hlibrary hown]
    exact Adapter.iterationSignal_eq (ErrorKind.not_isBelow_stopIteration hown)
  · intro hany hsignal
    rw [hforeign hany hsignal]
    exact Adapter.iterationSignal_eq hsignal

/-- While a query closes its cursor nothing becomes an engine error, and all else passes. -/
theorem Failure.becomes_iterationSignal (kinds : List ErrorKind) {isOpen : Prop} (h : isOpen)
    (e : Failure) : Becomes kinds isOpen e (Adapter.iterationSignal e) := by
  constructor
  · exact fun hsettled => absurd h hsettled
  · exact fun hown => Adapter.iterationSignal_eq (ErrorKind.not_isBelow_stopIteration hown)
  · exact fun _ hsignal => Adapter.iterationSignal_eq hsignal

namespace Connection

variable {surroundings : Surroundings}

/-- A call is a single event. -/
theorem isEvent_call (surroundings : Surroundings) (c : EngineCall) :
    (surroundings.connection.call c).IsEvent surroundings (.engine c) id := by
  intro events
  unfold Run.Ends call failure?
  cases surroundings.connection.failure? (calls events) c <;> rfl

/-- A call fails by its failure. -/
theorem reacts_call (surroundings : Surroundings) (c : EngineCall) :
    (surroundings.connection.call c).Reacts surroundings (FailsWith IsCall id) := by
  apply Run.reacts_event (.engine c)
  intro events
  refine ⟨_, isEvent_call surroundings c events, ?_⟩
  intro e hfailure _
  rw [hfailure]
  exact ⟨⟨c, rfl⟩, rfl⟩

/-- Reading the row count fails by its failure. -/
theorem reacts_readRowCount (surroundings : Surroundings) :
    surroundings.connection.readRowCount.Reacts surroundings (CountsOrFails id) := by
  apply Run.reacts_event .countRead
  intro events
  refine ⟨_, rfl, ?_⟩
  intro e hfailure _
  refine ⟨fun hmissing => absurd hmissing.1 (by simp), fun _ => ?_⟩
  exact Outcome.failure?_eq_some_iff.mp hfailure

end Connection

namespace Adapter

variable (a : Adapter) (surroundings : Surroundings)

/-- Looking up the row count fails by the failure of a look, unless that is how a cursor shows
none. -/
theorem reacts_rowCount :
    (a.rowCount surroundings.connection).Reacts surroundings (CountsOrFails id) := by
  have hread := Connection.reacts_readRowCount surroundings
  unfold rowCount
  cases a.driver with
  | sqlite => exact hread
  | generic =>
    intro events
    -- The first look decides. It is the one failure after which a run may go on and succeed, so
    -- the lemma about one run after another does not apply.
    cases hcount : surroundings.connection.rowCount events with
    | ok v =>
      have hasked : surroundings.connection.showsRowCount.Ends events (.ok true) [.countAsked] := by
        simp only [Run.Ends, Connection.showsRowCount, hcount]
      have hnone : Event.failure? surroundings events .countAsked = none :=
        Outcome.failure?_eq_none_iff.mpr ⟨v, hcount⟩
      obtain ⟨outcome, new, hends, hreact⟩ := hread (events ++ [.countAsked])
      refine ⟨outcome, [.countAsked] ++ new, hasked.andThen hends, ?_⟩
      intro event e hfaults hengine
      rw [faults_append, faults_singleton, hnone] at hfaults
      exact hreact event e hfaults hengine
    | error e =>
      have hfailure : Event.failure? surroundings events .countAsked = some e :=
        Outcome.failure?_eq_some_iff.mpr hcount
      by_cases hmissing : e.kind.isBelow .attributeAccess = true
      · have hasked : surroundings.connection.showsRowCount.Ends events (.ok false)
            [.countAsked] := by
          simp only [Run.Ends, Connection.showsRowCount, hcount, if_pos hmissing]
        refine ⟨.ok (.int (-1)), [.countAsked] ++ [], ?_, ?_⟩
        · apply hasked.andThen
          exact Run.ends_result _ _
        intro event e' hfaults _
        rw [List.append_nil, faults_singleton_iff, hfailure] at hfaults
        obtain ⟨heq, rfl⟩ := hfaults
        cases heq
        exact ⟨fun _ => rfl, fun hfound => absurd ⟨rfl, hmissing⟩ hfound⟩
      · have hasked : surroundings.connection.showsRowCount.Ends events (.error e)
            [.countAsked] := by
          simp only [Run.Ends, Connection.showsRowCount, hcount, if_neg hmissing]
        refine ⟨.error e, [.countAsked], hasked.stop, ?_⟩
        intro event e' hfaults _
        rw [faults_singleton_iff, hfailure] at hfaults
        obtain ⟨heq, rfl⟩ := hfaults
        cases heq
        exact ⟨fun hnone => absurd hnone.2 hmissing, fun _ => rfl⟩

/-- A call on whatever was passed as the connection fails by its failure. -/
theorem reacts_callOn (target : Value) (method : String) (c : EngineCall) :
    (callOn surroundings.connection target method c).Reacts surroundings
      (FailsWith IsCall id) := by
  unfold callOn
  split
  · exact Connection.reacts_call surroundings c
  · exact Run.reacts_fail _

/-- Executing a query fails as the driver does, with a failure that may be changed, unless it finds
that a cursor shows no row count. -/
theorem reacts_execute (target : Value) (sql : String) (parameters : List Value) :
    (a.execute surroundings.connection target sql parameters).Reacts surroundings
      (CountsOrFails (Failure.underDriver a.errorKinds)) := by
  have hclose := Connection.isEvent_call surroundings .close
  have hcall : ∀ event e, IsCall event → CountsOrFails id event e (.error (id e)) :=
    fun _ e h => countsOrFails_of_isCall h e
  have hcloseFails : ∀ e, CountsOrFails id (.engine .close) e (.error (id e)) :=
    fun e => hcall _ e ⟨_, rfl⟩
  have hcount := reacts_rowCount a surroundings
  have hchange : ∀ event e outcome, CountsOrFails id event e outcome →
      CountsOrFails (Failure.underDriver a.errorKinds) event e
        (outcome.mapError (Failure.underDriver a.errorKinds)) := by
    rintro event e outcome ⟨hmissing, hfails⟩
    refine ⟨fun h => ?_, fun h => ?_⟩
    · rw [hmissing h]
      rfl
    · rw [hfails h]
      rfl
  unfold execute guarding
  apply Run.Reacts.mapFailure _ hchange
  cases a.driver with
  | generic =>
    apply (reacts_callOn surroundings target "cursor" .cursor).andThen hcall
    intro _
    apply Run.Reacts.ensuring _ hclose hcloseFails
    exact (Connection.reacts_call surroundings (.execute sql (some parameters))).andThen hcall
      fun _ => hcount
  | sqlite =>
    apply (reacts_callOn surroundings target "execute" (.executeDirectly sql parameters)).andThen
      hcall
    intro _
    exact hcount.ensuring hclose hcloseFails

/-- Executing a script fails as the driver does, with a failure that may be changed. -/
theorem reacts_executeScript (target : Value) (sql : String) :
    (a.executeScript surroundings.connection target sql).Reacts surroundings
      (FailsWith IsCall (Failure.underDriver a.errorKinds)) := by
  unfold executeScript guarding
  apply Run.Reacts.mapFailure_failsWith
  cases a.driver with
  | generic =>
    apply (reacts_callOn surroundings target "cursor" .cursor).andThen
      fun _ _ hcall => ⟨hcall, rfl⟩
    intro _
    exact (Connection.reacts_call surroundings (.execute sql none)).ensuring
      (Connection.isEvent_call surroundings .close) fun _ => ⟨⟨_, rfl⟩, rfl⟩
  | sqlite => exact reacts_callOn surroundings target "executescript" (.executeScript sql)

/-- Opening a query fails as the driver does, with a failure that may be changed. -/
theorem reacts_openQuery (target : Value) (sql : String) (parameters : List Value) :
    (a.openQuery surroundings.connection target sql parameters).Reacts surroundings
      (FailsWith IsCall (iterationSignal ∘ Failure.underDriver a.errorKinds)) := by
  unfold openQuery guarding
  apply Run.Reacts.mapFailure_failsWith
  apply Run.Reacts.mapFailure_failsWith
  apply (reacts_callOn surroundings target "cursor" .cursor).andThen
    fun _ _ hcall => ⟨hcall, rfl⟩
  intro _
  exact (Connection.reacts_call surroundings (.execute sql (some parameters))).onFailure
    (Connection.isEvent_call surroundings .close) fun _ => ⟨⟨_, rfl⟩, rfl⟩

/-- What the engine's failure of a call becomes where the driver's failures are engine errors. For
some events it may be left open. -/
def Translates {α : Type} (a : Adapter) (isOpen : Event → Prop) : Reaction α :=
  fun event e outcome => event.IsCall ∧
    ∃ f, outcome = .error f ∧ Failure.Becomes a.errorKinds (isOpen event) e f

/-- Running a query translates the failures of calls if what is done with its rows does. What comes
of closing the cursor is left open. -/
theorem reacts_select {α : Type} (target : Value) (sql : String) (parameters : List Value)
    {body : Run α} {isOpen : Event → Prop} (hopen : isOpen (.engine .close))
    (h : body.Reacts surroundings (a.Translates isOpen)) :
    (a.select surroundings.connection target sql parameters body).Reacts surroundings
      (a.Translates isOpen) := by
  have hclose : (Run.mapFailure iterationSignal (surroundings.connection.call .close)).IsEvent
      surroundings (.engine .close) iterationSignal := by
    intro events
    have hends := (Connection.isEvent_call surroundings .close events).mapFailure iterationSignal
    cases hfailure : Event.failure? surroundings events (.engine .close) with
    | none =>
      rw [hfailure] at hends
      exact hends
    | some e =>
      rw [hfailure] at hends
      exact hends
  unfold select
  apply (reacts_openQuery a surroundings target sql parameters).andThen
  · intro event e hcall
    exact ⟨hcall, _, rfl, Failure.becomes_iterationSignal_underDriver _ _ e⟩
  · intro _
    apply h.ensuring hclose
    exact fun e => ⟨⟨_, rfl⟩, _, rfl, Failure.becomes_iterationSignal _ hopen e⟩

end Adapter

end AnnotatedSql
