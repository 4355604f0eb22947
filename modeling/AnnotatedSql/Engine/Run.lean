import AnnotatedSql.Engine.Event

/-!
# Runs

A run goes on from the events so far and ends with a result or a failure. Either way it keeps
the events, its own added at the end.
-/

namespace AnnotatedSql

/-- A computation with events: from the events so far to its outcome and all events. -/
def Run (α : Type) : Type :=
  List Event → Except Failure α × List Event

namespace Run

/-- Nothing happens. -/
def result {α : Type} (a : α) : Run α :=
  fun events => (.ok a, events)

/-- Nothing happens but a failure. -/
def fail {α : Type} (e : Failure) : Run α :=
  fun events => (.error e, events)

/-- One run after another, unless the first fails. -/
def andThen {α β : Type} (first : Run α) (next : α → Run β) : Run β :=
  fun events =>
    match first events with
    | (.ok a, later) => next a later
    | (.error e, later) => (.error e, later)

instance : Monad Run where
  pure := result
  bind := andThen

/-- An event happens. -/
def emit (event : Event) : Run Unit :=
  fun events => (.ok (), events ++ [event])

/-- A run, and then an action whether it failed or not. A failure of the action is the failure
of the whole. -/
def ensuring {α : Type} (run : Run α) (finally_ : Run Unit) : Run α :=
  fun events =>
    match run events with
    | (outcome, later) =>
      match finally_ later with
      | (.ok (), last) => (outcome, last)
      | (.error e, last) => (.error e, last)

/-- A run, and then an action if it failed. A failure of the action is the failure of the
whole. -/
def onFailure {α : Type} (run : Run α) (action : Run Unit) : Run α :=
  fun events =>
    match run events with
    | (.ok a, later) => (.ok a, later)
    | (.error e, later) =>
      match action later with
      | (.ok (), last) => (.error e, last)
      | (.error e', last) => (.error e', last)

/-- A run whose failure is changed. -/
def mapFailure {α : Type} (change : Failure → Failure) (run : Run α) : Run α :=
  fun events =>
    match run events with
    | (.ok a, later) => (.ok a, later)
    | (.error e, later) => (.error (change e), later)

/-- A computation without events. -/
def ofExcept {α : Type} : Except Failure α → Run α
  | .ok a => result a
  | .error e => fail e

end Run

end AnnotatedSql
