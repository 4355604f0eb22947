import AnnotatedSql.Operation.Basic

/-!
# Calling operations

A call matches its arguments, checks and assembles them, logs the query, and runs it through
the adapter. A query hands its rows to the callback one by one; a returning statement hands it
the first row and gives back what the callback makes of it.
-/

namespace AnnotatedSql

namespace Log

/-- The record of a query that is about to run. -/
def executing (s : Statement) (q : BoundQuery) : Record :=
  { logger := "sqlinclude.operations"
    level := .debug
    template := "Executing " ++ s.name ++ s.kind.selector
    fields := .mapping
      [("statement", .text s.name), ("operation", .text s.kind.label), ("sql", .text q.sql),
        ("parameter_count", .int q.parameters.length)] }

end Log

namespace Operation

/-- The connection, the values of the parameters and the callback of a call. -/
structure Bound where
  /-- What was passed as the connection. -/
  target : Value
  /-- The values of the parameters. -/
  values : List (String × Value)
  /-- What was passed as the callback. -/
  callback : Value

/-- How the containers in the slots of an operation are looked up by their names. -/
abbrev Containers := String → List String → Replacement

/-- Arguments are checked against declared types. What stands in place of the setting counts as it
does elsewhere. -/
def checksTypes (op : Operation) (containers : Containers) : Bool :=
  match op.checkTypes.resolve containers with
  | .ok checked => checked
  | .error replacement => replacement.isTrue

/-- Matches and checks the arguments of a call. -/
def bind (op : Operation) (containers : Containers) (positional : List Value)
    (named : List (String × Value)) : Except Failure Bound := do
  let names := op.signature.arguments.map Argument.name
  let arguments ← (Arguments.bind names positional named).mapError ArgumentError.failure
  let values ← (Parameter.checkAll op.statement.name (op.checksTypes containers) arguments
    op.statement.parameters).mapError ValueError.failure
  pure {
    target := (arguments.lookup connectionName).getD .none
    values := values
    callback := (arguments.lookup callbackName).getD .none }

/-- The query of a call with the given values. What stands in place of a style is asked to render
the first placeholder, if one is needed. -/
def query (op : Operation) (containers : Containers) (values : List (String × Value)) :
    Run BoundQuery :=
  let ofExcept {α : Type} (outcome : Except AssemblyError α) : Run α :=
    Run.ofExcept (outcome.mapError AssemblyError.failure)
  let dynamic (style : PlaceholderStyle) : Run BoundQuery :=
    ofExcept (BoundQuery.assembleDynamic op.statement values style)
  match op.static, op.style.resolve containers with
  | some q, _ => ofExcept ((q.bind values).map fun bound => ⟨q.sql, bound⟩)
  | none, .ok style => dynamic style
  | none, .error replacement => do
    if ← ofExcept (BoundQuery.hasPlaceholder values op.statement.tokens) then
      replacement.refuseRendering 1
    else dynamic .standard

/-- Assembles the query of a call and logs it. -/
def prepare (op : Operation) (containers : Containers) (values : List (String × Value)) :
    Run BoundQuery := do
  let q ← op.query containers values
  Run.emit (.logged (Log.executing op.statement q))
  pure q

/-- What a callback's failure becomes: the library's failures and the signals that end the
program pass, others name the statement and the row. -/
def callbackFailure (statement : String) (rowNumber : Nat) (e : Failure) : Failure :=
  if e.kind.isLibrary then e
  else if e.kind.isBelow .error then .rowCallback statement rowNumber e
  else e

/-- Hands a row to the callback. -/
def handRow (surroundings : Surroundings) (callback row : Value) : Run Value :=
  match callback with
  | .callback number =>
    match surroundings.callback? number with
    | some c => fun events =>
      (c.answer (Event.rowsOf number events) row, events ++ [.row number row])
    | none => .result .none
  | v => .fail (notCallable v.typeName)

/-- Hands a row of a statement to the callback; a failure of the callback names them. -/
def invoke (op : Operation) (surroundings : Surroundings) (callback row : Value)
    (rowNumber : Nat) : Run Value :=
  (handRow surroundings callback row).mapFailure (callbackFailure op.statement.name rowNumber)

/-- Fetches a row from the cursor. The driver's failures are engine errors. -/
def fetch (adapter : Adapter) (connection : Connection) : Run Unit :=
  adapter.guarding (connection.call .fetch)

/-- Hands the rows that a cursor still serves to the callback, up to the end or to a row that
looks like it. -/
def deliver (op : Operation) (adapter : Adapter) (surroundings : Surroundings)
    (callback : Value) : (rowNumber : Nat) → List Value → Run Unit
  | _, [] => fetch adapter surroundings.connection
  | rowNumber, row :: rest => do
    fetch adapter surroundings.connection
    match row with
    | .none => pure ()
    | row =>
      let _ ← op.invoke surroundings callback row rowNumber
      deliver op adapter surroundings callback (rowNumber + 1) rest

/-- Hands the first row to the callback. -/
def deliverFirst (op : Operation) (adapter : Adapter) (surroundings : Surroundings)
    (callback : Value) : Run Value := do
  fetch adapter surroundings.connection
  match surroundings.connection.rows with
  | [] | .none :: _ => .fail (.noRows op.statement.name)
  | row :: _ => op.invoke surroundings callback row 1

/-- What an operation runs its query through: an adapter, or what stands in its place. -/
abbrev Runner := Except Replacement Adapter

/-- Executes a query and gives back what the runner makes of it. -/
def executeThrough (op : Operation) (runner : Runner) (connection : Connection) (target : Value)
    (q : BoundQuery) : Run Value :=
  match runner with
  | .ok adapter => adapter.execute connection target q.sql q.parameters
  | .error replacement =>
    replacement.call "execute"
      [target, .text op.statement.name, .text q.sql, .list q.parameters]

/-- Executes a script. -/
def scriptThrough (op : Operation) (runner : Runner) (connection : Connection) (target : Value)
    (q : BoundQuery) : Run Unit :=
  match runner with
  | .ok adapter => adapter.executeScript connection target q.sql
  | .error replacement => do
    let _ ← replacement.call "execute_script" [target, .text op.statement.name, .text q.sql]

/-- Runs a body with an adapter while the cursor of a query is open. What a replacement gives
back is no cursor. -/
def selectThrough {α : Type} (op : Operation) (runner : Runner) (connection : Connection)
    (target : Value) (q : BoundQuery) (body : Adapter → Run α) : Run α :=
  match runner with
  | .ok adapter => adapter.select connection target q.sql q.parameters (body adapter)
  | .error replacement => do
    let opened ← replacement.call "select"
      [target, .text op.statement.name, .text q.sql, .list q.parameters]
    .fail (.plain .type
      ("'" ++ opened.typeName ++ "' object does not support the context manager protocol"))

/-- Calls the operation with arguments by position and by name. The containers that stand in its
slots are looked up as they are now. -/
def call (op : Operation) (containers : Containers) (surroundings : Surroundings)
    (positional : List Value) (named : List (String × Value)) : Run Value := do
  let connection := surroundings.connection
  let runner := op.adapter.resolve containers
  let bound ← Run.ofExcept (op.bind containers positional named)
  match op.statement.kind with
  | .query =>
    let q ← op.prepare containers bound.values
    op.selectThrough runner connection bound.target q fun adapter =>
      op.deliver adapter surroundings bound.callback 1 connection.rows
    pure .none
  | .execute =>
    let q ← op.prepare containers bound.values
    op.executeThrough runner connection bound.target q
  | .batch =>
    let q ← op.prepare containers []
    op.scriptThrough runner connection bound.target q
    pure .none
  | .returning =>
    let q ← op.prepare containers bound.values
    op.selectThrough runner connection bound.target q fun adapter =>
      op.deliverFirst adapter surroundings bound.callback

end Operation

end AnnotatedSql
