import AnnotatedSql.Engine.Connection
import AnnotatedSql.Query.Placeholder

/-!
# Adapters

An adapter runs assembled queries on a connection of a driver. It turns the driver's failures
into engine errors, and it closes every cursor it opens.
-/

namespace AnnotatedSql

/-- The drivers that adapters are made for. -/
inductive Driver where
  /-- Any driver with cursors. -/
  | generic
  /-- A driver whose connections execute queries and scripts themselves. -/
  | sqlite
  deriving DecidableEq, Repr

/-- How queries are run on the connections of a driver. -/
structure Adapter where
  /-- The driver. -/
  driver : Driver
  /-- How the driver writes placeholders. -/
  style : PlaceholderStyle
  /-- The kinds of failures that are the driver's. -/
  errorKinds : List ErrorKind
  deriving DecidableEq, Repr

namespace Adapter

/-- The adapter for any driver. Unless it is told otherwise every error is the driver's. -/
def generic (style : PlaceholderStyle) (errorKinds : Option (List ErrorKind)) : Adapter :=
  ⟨.generic, style, errorKinds.getD [.error]⟩

/-- The adapter for connections that execute queries and scripts themselves. -/
def sqlite (style : PlaceholderStyle) : Adapter :=
  ⟨.sqlite, style, [.driver]⟩

/-- The adapter where none is given. -/
def standard : Adapter :=
  sqlite .standard

/-- The name of the adapter's type. -/
def typeName (a : Adapter) : String :=
  match a.driver with
  | .generic => "GenericAdapter"
  | .sqlite => "SqliteAdapter"

/-- The adapter in descriptions. -/
def describe (a : Adapter) : String :=
  a.typeName ++ "(placeholder_style=" ++ Text.quoted a.style.label ++ ")"

/-- The run, with the driver's failures as engine errors. -/
def guarding {α : Type} (a : Adapter) (run : Run α) : Run α :=
  run.mapFailure (Failure.underDriver a.errorKinds)

/-- A call on what was passed as the connection. What is no connection has no such method. -/
def callOn (connection : Connection) (target : Value) (method : String) (c : EngineCall) :
    Run Unit :=
  match target with
  | .connection => connection.call c
  | v =>
    .fail (.plain .attributeAccess
      ("'" ++ v.typeName ++ "' object has no attribute " ++ Text.quoted method))

/-- The row count that a cursor shows. Any driver's cursor is asked first whether it shows one, and
minus one stands for none. -/
def rowCount (a : Adapter) (connection : Connection) : Run Value :=
  match a.driver with
  | .generic => do
    if ← connection.showsRowCount then connection.readRowCount else pure (.int (-1))
  | .sqlite => connection.readRowCount

/-- Executes a query and gives back how many rows it changed. -/
def execute (a : Adapter) (connection : Connection) (target : Value) (sql : String)
    (parameters : List Value) : Run Value :=
  a.guarding do
    match a.driver with
    | .generic =>
      callOn connection target "cursor" .cursor
      Run.ensuring
        (do
          connection.call (.execute sql (some parameters))
          a.rowCount connection)
        (connection.call .close)
    | .sqlite =>
      callOn connection target "execute" (.executeDirectly sql parameters)
      Run.ensuring (a.rowCount connection) (connection.call .close)

/-- Executes a script. -/
def executeScript (a : Adapter) (connection : Connection) (target : Value) (sql : String) :
    Run Unit :=
  a.guarding do
    match a.driver with
    | .generic =>
      callOn connection target "cursor" .cursor
      Run.ensuring (connection.call (.execute sql none)) (connection.call .close)
    | .sqlite => callOn connection target "executescript" (.executeScript sql)

/-- The signal that an iteration ends has no place where a query opens or closes: there it is an
error of its own. -/
def iterationSignal (e : Failure) : Failure :=
  if e.kind.isBelow .stopIteration then
    { Failure.plain .runtime "generator raised StopIteration" with cause := some e }
  else e

/-- Opens a cursor and executes a query on it. The cursor is closed again if that fails. -/
def openQuery (a : Adapter) (connection : Connection) (target : Value) (sql : String)
    (parameters : List Value) : Run Unit :=
  Run.mapFailure iterationSignal (a.guarding do
    callOn connection target "cursor" .cursor
    Run.onFailure (connection.call (.execute sql (some parameters))) (connection.call .close))

/-- Runs a body while the cursor of a query is open, and closes the cursor. -/
def select {α : Type} (a : Adapter) (connection : Connection) (target : Value) (sql : String)
    (parameters : List Value) (body : Run α) : Run α := do
  a.openQuery connection target sql parameters
  Run.ensuring body (Run.mapFailure iterationSignal (connection.call .close))

end Adapter

end AnnotatedSql
