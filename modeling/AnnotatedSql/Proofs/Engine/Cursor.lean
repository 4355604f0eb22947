import AnnotatedSql.Engine.Adapter
import AnnotatedSql.Proofs.Engine.Ending

/-!
# The cursor of a run

A connection gives a cursor when it is asked for one or when it executes a query itself, unless that
call fails. From then on calls are made on the cursor and looks are taken at its row count, until it
is closed. Each event moves the cursor on from one stage to the next, and a run moves it from the
stage at its start to one at its end, whether it fails or not.
-/

set_option autoImplicit false

namespace AnnotatedSql

/-- The connection gives a cursor for the call, unless the call fails. -/
def EngineCall.givesCursor : EngineCall → Bool
  | cursor | executeDirectly .. => true
  | execute .. | executeScript _ | fetch | close => false

/-- The call is made on a cursor. -/
def EngineCall.isOnCursor : EngineCall → Bool
  | execute .. | fetch | close => true
  | cursor | executeDirectly .. | executeScript _ => false

namespace Event

/-- A cursor is given after the events before. -/
def obtains (connection : Connection) (before : List Event) : Event → Bool
  | engine c => c.givesCursor && (connection.failure? (calls before) c).isNone
  | ended _ | countAsked | countRead | row .. | logged _ => false

/-- Something is done with a cursor. -/
def isOnCursor : Event → Bool
  | engine c => c.isOnCursor
  | countAsked | countRead => true
  | ended _ | row .. | logged _ => false

/-- A cursor is closed, or at least told to. -/
def closes : Event → Bool
  | engine .close => true
  | engine _ | ended _ | countAsked | countRead | row .. | logged _ => false

/-- What closes a cursor is done with it. -/
theorem isOnCursor_of_closes {event : Event} (h : event.closes = true) :
    event.isOnCursor = true := by
  unfold closes at h
  split at h
  · rfl
  all_goals cases h

/-- What is done with a cursor gives none. -/
theorem obtains_of_isOnCursor {connection : Connection} {before : List Event} {event : Event}
    (h : event.isOnCursor = true) : event.obtains connection before = false := by
  cases event with
  | engine c => cases c <;> first | rfl | cases h
  | ended how => rfl
  | countAsked => rfl
  | countRead => rfl
  | row callback v => rfl
  | logged record => rfl

/-- How many cursors are given among events, after others. -/
def obtained (connection : Connection) (before : List Event) : List Event → ℕ
  | [] => 0
  | event :: rest =>
    (if event.obtains connection before then 1 else 0) +
      obtained connection (before ++ [event]) rest

/-- How many times a cursor is closed among events. -/
def closings (events : List Event) : ℕ :=
  events.countP closes

end Event

/-- How far it has come with the cursor of a run. -/
inductive CursorStage where
  /-- None has been given. -/
  | unopened
  /-- One has been given and may be used. -/
  | opened
  /-- The one that was given has been closed. -/
  | closed

namespace CursorStage

/-- How many cursors have been given. -/
def obtained : CursorStage → ℕ
  | unopened => 0
  | opened | closed => 1

/-- How many times one has been closed. -/
def closings : CursorStage → ℕ
  | unopened | opened => 0
  | closed => 1

variable {connection : Connection} {before : List Event} {event : Event}
  {first middle last : CursorStage}

/-- Where no cursor is open, none has been given or the only one has been closed. -/
theorem settled_of_ne_opened {stage : CursorStage} (h : stage ≠ opened) :
    stage.closings = stage.obtained ∧ stage.obtained ≤ 1 := by
  cases stage with
  | unopened => exact ⟨rfl, Nat.zero_le 1⟩
  | opened => exact absurd rfl h
  | closed => exact ⟨rfl, Nat.le_refl 1⟩

/-- A cursor that is closed is not open. -/
theorem ne_opened_of_closed (stage : CursorStage) (h : stage = closed) : stage ≠ opened := by
  simp [h]

/-- A cursor that has not been given is not open. -/
theorem ne_opened_of_unopened (stage : CursorStage) (h : stage = unopened) : stage ≠ opened := by
  simp [h]

/-- How an event moves a cursor on, after the events before. No step ends a transaction. -/
inductive Step (connection : Connection) (before : List Event) :
    CursorStage → Event → CursorStage → Prop
  /-- The only cursor is given. -/
  | obtain {event : Event} (obtains : event.obtains connection before = true) :
      Step connection before unopened event opened
  /-- Something is done with it. -/
  | use {event : Event} (uses : event.isOnCursor = true) (stays : event.closes = false) :
      Step connection before opened event opened
  /-- It is closed. -/
  | close {event : Event} (closes : event.closes = true) :
      Step connection before opened event closed
  /-- Nothing is done with it, and no cursor is given. -/
  | aside {event : Event} (stage : CursorStage) (off : event.isOnCursor = false)
      (none : event.obtains connection before = false)
      (goesOn : event.endsTransaction = false) : Step connection before stage event stage

/-- A step counts the cursors that are given and the times that one is closed. -/
theorem Step.counts (h : Step connection before first event last) :
    last.obtained = first.obtained + (if event.obtains connection before then 1 else 0) ∧
      last.closings = first.closings + (if event.closes then 1 else 0) := by
  cases h with
  | obtain obtains =>
    have hstays : event.closes = false := by
      by_contra hcloses
      have hon := Event.isOnCursor_of_closes (Bool.not_eq_false _ ▸ hcloses)
      rw [Event.obtains_of_isOnCursor hon] at obtains
      cases obtains
    simp [obtained, closings, obtains, hstays]
  | use uses stays => simp [obtained, closings, Event.obtains_of_isOnCursor uses, stays]
  | close closes =>
    have hnone : event.obtains connection before = false :=
      Event.obtains_of_isOnCursor (Event.isOnCursor_of_closes closes)
    simp [obtained, closings, hnone, closes]
  | aside _ off none =>
    have hstays : event.closes = false := by
      by_contra hcloses
      have hon := Event.isOnCursor_of_closes (Bool.not_eq_false _ ▸ hcloses)
      rw [off] at hon
      cases hon
    simp [none, hstays]

/-- Only an open cursor is used. -/
theorem Step.opened_of_isOnCursor (h : Step connection before first event last)
    (hon : event.isOnCursor = true) : first = opened := by
  cases h with
  | obtain obtains =>
    rw [Event.obtains_of_isOnCursor hon] at obtains
    cases obtains
  | use => rfl
  | close => rfl
  | aside _ off =>
    rw [off] at hon
    cases hon

/-- A step does not end a transaction. -/
theorem Step.endsTransaction_eq (h : Step connection before first event last) :
    event.endsTransaction = false := by
  cases h with
  | obtain obtains => cases event <;> first | rfl | cases obtains
  | use uses => cases event <;> first | rfl | cases uses
  | close closes => cases event <;> first | rfl | cases closes
  | aside _ _ _ goesOn => exact goesOn

/-- How events move a cursor on, one after another, after the events before. -/
inductive Path (connection : Connection) :
    List Event → CursorStage → List Event → CursorStage → Prop
  /-- Nothing happens. -/
  | nil (before : List Event) (stage : CursorStage) : Path connection before stage [] stage
  /-- An event happens, and then the others. -/
  | cons {before rest : List Event} {event : Event} {first middle last : CursorStage}
      (step : Step connection before first event middle)
      (path : Path connection (before ++ [event]) middle rest last) :
      Path connection before first (event :: rest) last

variable {new more : List Event}

/-- A single event that is a step. -/
theorem Step.path (h : Step connection before first event last) :
    Path connection before first [event] last :=
  .cons h (.nil _ last)

/-- Some events and then others. -/
theorem Path.append (h : Path connection before first new middle)
    (hmore : Path connection (before ++ new) middle more last) :
    Path connection before first (new ++ more) last := by
  induction h with
  | nil before stage => simpa using hmore
  | cons step path ih => exact .cons step (ih (by simpa using hmore))

/-- Events count the cursors that are given and the times that one is closed. -/
theorem Path.counts (h : Path connection before first new last) :
    last.obtained = first.obtained + Event.obtained connection before new ∧
      last.closings = first.closings + Event.closings new := by
  induction h with
  | nil => exact ⟨rfl, rfl⟩
  | cons step path ih =>
    obtain ⟨hobtained, hclosings⟩ := step.counts
    rw [ih.1, ih.2, hobtained, hclosings, Event.obtained, Event.closings, Event.closings,
      List.countP_cons]
    omega

/-- No transaction is ended. -/
theorem Path.endsTransaction_eq (h : Path connection before first new last) :
    ∀ event ∈ new, event.endsTransaction = false := by
  induction h with
  | nil => exact List.forall_mem_nil _
  | cons step path ih => exact List.forall_mem_cons.mpr ⟨step.endsTransaction_eq, ih⟩

/-- At every event the cursor stands where the events before have moved it. -/
theorem Path.split {event : Event} {front back : List Event}
    (h : Path connection before first (front ++ event :: back) last) :
    ∃ stage next, Path connection before first front stage ∧
      Step connection (before ++ front) stage event next := by
  induction front generalizing before first with
  | nil =>
    cases h with
    | cons step path => exact ⟨first, _, .nil before first, by simpa using step⟩
  | cons head others ih =>
    cases h with
    | cons step path =>
      obtain ⟨stage, next, hfront, hstep⟩ := ih path
      exact ⟨stage, next, .cons step hfront, by simpa using hstep⟩

end CursorStage

open CursorStage

namespace Run

variable {α β : Type} {connection : Connection} {start middle : CursorStage}
  {done failed done' failed' : CursorStage → Prop}

/-- A run moves a cursor on from a stage to one of some stages if it succeeds, and to one of others
if it fails. -/
def Takes (connection : Connection) (run : Run α) (start : CursorStage)
    (done failed : CursorStage → Prop) : Prop :=
  ∀ events, ∃ outcome new last, run.Ends events outcome new ∧
    Path connection events start new last ∧
      match outcome with
      | .ok _ => done last
      | .error _ => failed last

/-- A run that ends at some stages ends at those and more. -/
theorem Takes.mono {run : Run α} (h : run.Takes connection start done failed)
    (hdone : ∀ stage, done stage → done' stage)
    (hfailed : ∀ stage, failed stage → failed' stage) :
    run.Takes connection start done' failed' := by
  intro events
  obtain ⟨outcome, new, last, hends, hpath, hlast⟩ := h events
  refine ⟨outcome, new, last, hends, hpath, ?_⟩
  cases outcome with
  | ok a => exact hdone last hlast
  | error e => exact hfailed last hlast

/-- A result leaves a cursor where it is. -/
theorem takes_result (a : α) (h : done start) : (result a).Takes connection start done failed :=
  fun events => ⟨_, _, start, ends_result a events, .nil _ start, h⟩

/-- A failure leaves a cursor where it is. -/
theorem takes_fail (e : Failure) (h : failed start) :
    (fail e : Run α).Takes connection start done failed :=
  fun events => ⟨_, _, start, ends_fail e events, .nil _ start, h⟩

/-- A computation without events leaves a cursor where it is. -/
theorem takes_ofExcept (outcome : Except Failure α) (hdone : done start) (hfailed : failed start) :
    (ofExcept outcome).Takes connection start done failed := by
  cases outcome with
  | ok a => exact takes_result a hdone
  | error e => exact takes_fail e hfailed

/-- One run goes on with a cursor where the other left it. -/
theorem Takes.andThen {first : Run α} {next : α → Run β}
    (hfirst : first.Takes connection start (· = middle) failed)
    (hnext : ∀ a, (next a).Takes connection middle done failed) :
    (first >>= next).Takes connection start done failed := by
  intro events
  obtain ⟨outcome, new, last, hends, hpath, hlast⟩ := hfirst events
  cases outcome with
  | error e => exact ⟨_, new, last, hends.stop, hpath, hlast⟩
  | ok a =>
    obtain rfl : last = middle := hlast
    obtain ⟨outcome, more, final, hmore, hrest, hfinal⟩ := hnext a (events ++ new)
    exact ⟨outcome, new ++ more, final, hends.andThen hmore, hpath.append hrest, hfinal⟩

/-- A run leaves a cursor where it does, whatever result is given in place of its own. -/
theorem Takes.giving {run : Run α} (h : run.Takes connection start done failed) (b : β) :
    (run >>= fun _ => result b).Takes connection start done failed := by
  intro events
  obtain ⟨outcome, new, last, hends, hpath, hlast⟩ := h events
  cases outcome with
  | error e => exact ⟨_, new, last, hends.stop, hpath, hlast⟩
  | ok a =>
    exact ⟨_, new ++ [], last, hends.andThen (ends_result b _), by simpa using hpath, hlast⟩

/-- What is done in any case goes on with a cursor where the run left it. -/
theorem Takes.ensuring {run : Run α} {action : Run Unit}
    (h : run.Takes connection start (· = middle) (· = middle))
    (haction : action.Takes connection middle done done) :
    (run.ensuring action).Takes connection start done done := by
  intro events
  obtain ⟨outcome, new, last, hends, hpath, hlast⟩ := h events
  obtain rfl : last = middle := by cases outcome <;> exact hlast
  obtain ⟨outcome', more, final, hmore, hrest, hfinal⟩ := haction (events ++ new)
  cases outcome' with
  | ok u =>
    refine ⟨outcome, new ++ more, final, hends.ensuring hmore, hpath.append hrest, ?_⟩
    cases outcome <;> exact hfinal
  | error e =>
    exact ⟨_, new ++ more, final, hends.ensuring_error hmore, hpath.append hrest, hfinal⟩

/-- What is done after a failure goes on with a cursor where the run left it. -/
theorem Takes.onFailure {run : Run α} {action : Run Unit}
    (h : run.Takes connection start done (· = middle))
    (haction : action.Takes connection middle failed failed) :
    (run.onFailure action).Takes connection start done failed := by
  intro events
  obtain ⟨outcome, new, last, hends, hpath, hlast⟩ := h events
  cases outcome with
  | ok a => exact ⟨_, new, last, hends.onFailure_ok action, hpath, hlast⟩
  | error e =>
    obtain rfl : last = middle := hlast
    obtain ⟨outcome', more, final, hmore, hrest, hfinal⟩ := haction (events ++ new)
    cases outcome' with
    | ok u => exact ⟨_, new ++ more, final, hends.onFailure hmore, hpath.append hrest, hfinal⟩
    | error e' =>
      exact ⟨_, new ++ more, final, hends.onFailure_error hmore, hpath.append hrest, hfinal⟩

/-- A change of the failure is nothing to a cursor. -/
theorem Takes.mapFailure {run : Run α} (h : run.Takes connection start done failed)
    (change : Failure → Failure) : (run.mapFailure change).Takes connection start done failed := by
  intro events
  obtain ⟨outcome, new, last, hends, hpath, hlast⟩ := h events
  refine ⟨_, new, last, hends.mapFailure change, hpath, ?_⟩
  cases outcome <;> exact hlast

/-- One event, whatever comes of it, moves a cursor on by its step. -/
theorem takes_event {run : Run α} {event : Event}
    (hends : ∀ events, ∃ outcome, run.Ends events outcome [event])
    (hstep : ∀ before, Step connection before start event middle) :
    run.Takes connection start (· = middle) (· = middle) := by
  intro events
  obtain ⟨outcome, houtcome⟩ := hends events
  refine ⟨outcome, [event], middle, houtcome, (hstep events).path, ?_⟩
  cases outcome <;> rfl

end Run

namespace Connection

variable (connection : Connection)

/-- A call for a cursor opens it unless it fails. -/
theorem takes_call_of_givesCursor {c : EngineCall} (h : c.givesCursor = true) :
    (connection.call c).Takes connection unopened (· = opened) (· = unopened) := by
  intro events
  have hon : (Event.engine c).isOnCursor = false := by
    cases c <;> first | rfl | cases h
  cases hfailure : connection.failure? (Event.calls events) c with
  | none =>
    have hobtains : (Event.engine c).obtains connection events = true := by
      simp [Event.obtains, h, hfailure]
    refine ⟨.ok (), [.engine c], opened, ?_, (Step.obtain hobtains).path, rfl⟩
    simp only [Run.Ends, call, hfailure]
  | some e =>
    have hnone : (Event.engine c).obtains connection events = false := by
      simp [Event.obtains, hfailure]
    refine ⟨.error e, [.engine c], unopened, ?_, (Step.aside unopened hon hnone rfl).path, rfl⟩
    simp only [Run.Ends, call, hfailure]

/-- A call on an open cursor that does not close it leaves it open. -/
theorem takes_call_of_isOnCursor {c : EngineCall} (hon : c.isOnCursor = true)
    (hstays : (Event.engine c).closes = false) :
    (connection.call c).Takes connection opened (· = opened) (· = opened) :=
  Run.takes_event (fun _ => ⟨_, rfl⟩) fun _ => Step.use hon hstays

/-- An open cursor that is told to close is closed, even if that fails. -/
theorem takes_close :
    (connection.call .close).Takes connection opened (· = closed) (· = closed) :=
  Run.takes_event (fun _ => ⟨_, rfl⟩) fun _ => Step.close rfl

/-- A script is nothing to a cursor. -/
theorem takes_executeScript (sql : String) (stage : CursorStage) :
    (connection.call (.executeScript sql)).Takes connection stage (· = stage) (· = stage) :=
  Run.takes_event (fun _ => ⟨_, rfl⟩) fun _ => Step.aside stage rfl rfl rfl

end Connection

namespace Adapter

variable (a : Adapter) (connection : Connection)

/-- Looking up the row count leaves a cursor open. -/
theorem takes_rowCount :
    (a.rowCount connection).Takes connection opened (· = opened) (· = opened) := by
  have hread : connection.readRowCount.Takes connection opened (· = opened) (· = opened) :=
    Run.takes_event (fun _ => ⟨_, rfl⟩) fun _ => Step.use rfl rfl
  have hasked : connection.showsRowCount.Takes connection opened (· = opened) (· = opened) :=
    Run.takes_event (fun _ => ⟨_, rfl⟩) fun _ => Step.use rfl rfl
  unfold rowCount
  cases a.driver with
  | sqlite => exact hread
  | generic =>
    apply hasked.andThen
    intro shown
    cases shown with
    | false => exact Run.takes_result _ rfl
    | true => exact hread

/-- A call for a cursor on whatever was passed as the connection opens one unless it fails. -/
theorem takes_callOn_of_givesCursor (target : Value) (method : String) {c : EngineCall}
    (h : c.givesCursor = true) :
    (callOn connection target method c).Takes connection unopened (· = opened) (· = unopened) := by
  unfold callOn
  split
  · exact connection.takes_call_of_givesCursor h
  · exact Run.takes_fail _ rfl

/-- A script on whatever was passed as the connection is nothing to a cursor. -/
theorem takes_callOn_executeScript (target : Value) (method sql : String) (stage : CursorStage) :
    (callOn connection target method (.executeScript sql)).Takes connection stage (· = stage)
      (· = stage) := by
  unfold callOn
  split
  · exact connection.takes_executeScript sql stage
  · exact Run.takes_fail _ rfl

/-- What is done once a cursor is given leaves none open, if it closes the one that is given. -/
theorem takes_settled {α : Type} (target : Value) (method : String) {c : EngineCall}
    {next : Unit → Run α} (h : c.givesCursor = true)
    (hnext : ∀ u, (next u).Takes connection opened (· = closed) (· = closed)) :
    (callOn connection target method c >>= next).Takes connection unopened (· ≠ opened)
      (· ≠ opened) := by
  apply Run.Takes.andThen
  · exact (takes_callOn_of_givesCursor connection target method h).mono (fun _ h => h)
      ne_opened_of_unopened
  · exact fun u => (hnext u).mono ne_opened_of_closed ne_opened_of_closed

/-- Executing a query leaves no cursor open. -/
theorem takes_execute (target : Value) (sql : String) (parameters : List Value) :
    (a.execute connection target sql parameters).Takes connection unopened (· ≠ opened)
      (· ≠ opened) := by
  have hclose := connection.takes_close
  unfold execute guarding
  apply Run.Takes.mapFailure
  cases a.driver with
  | generic =>
    apply takes_settled connection target "cursor" rfl
    intro _
    apply Run.Takes.ensuring _ hclose
    apply (connection.takes_call_of_isOnCursor rfl rfl).andThen
    exact fun _ => takes_rowCount a connection
  | sqlite =>
    apply takes_settled connection target "execute" rfl
    intro _
    exact (takes_rowCount a connection).ensuring hclose

/-- Executing a script leaves no cursor open. -/
theorem takes_executeScript (target : Value) (sql : String) :
    (a.executeScript connection target sql).Takes connection unopened (· ≠ opened)
      (· ≠ opened) := by
  unfold executeScript guarding
  apply Run.Takes.mapFailure
  cases a.driver with
  | generic =>
    apply takes_settled connection target "cursor" rfl
    intro _
    exact (connection.takes_call_of_isOnCursor rfl rfl).ensuring connection.takes_close
  | sqlite =>
    exact (takes_callOn_executeScript connection target "executescript" sql unopened).mono
      ne_opened_of_unopened ne_opened_of_unopened

/-- Opening a query leaves its cursor open, and none if it fails. -/
theorem takes_openQuery (target : Value) (sql : String) (parameters : List Value) :
    (a.openQuery connection target sql parameters).Takes connection unopened (· = opened)
      (· ≠ opened) := by
  unfold openQuery guarding
  apply Run.Takes.mapFailure
  apply Run.Takes.mapFailure
  apply Run.Takes.andThen
  · exact (takes_callOn_of_givesCursor connection target "cursor" rfl).mono (fun _ h => h)
      ne_opened_of_unopened
  · intro _
    apply (connection.takes_call_of_isOnCursor rfl rfl).onFailure
    exact connection.takes_close.mono ne_opened_of_closed ne_opened_of_closed

/-- What is done with the rows of a query leaves no cursor open, if it does not close it itself. -/
theorem takes_select {α : Type} (target : Value) (sql : String) (parameters : List Value)
    {body : Run α} (h : body.Takes connection opened (· = opened) (· = opened)) :
    (a.select connection target sql parameters body).Takes connection unopened (· ≠ opened)
      (· ≠ opened) := by
  unfold select
  apply (takes_openQuery a connection target sql parameters).andThen
  intro _
  apply Run.Takes.mono _ ne_opened_of_closed ne_opened_of_closed
  exact h.ensuring (connection.takes_close.mapFailure iterationSignal)

end Adapter

end AnnotatedSql
