import AnnotatedSql.Log.Record

/-!
# Events

What running an operation does to its surroundings, in order: the calls made on the connection
and on its cursor, the looks at the cursor's row count, the ends of transactions, the rows handed to
callbacks, and the records logged.
-/

namespace AnnotatedSql

/-- A call on a connection or on the cursor it gave. -/
inductive EngineCall where
  /-- Asks the connection for a cursor. -/
  | cursor
  /-- Executes SQL text on the cursor, with bound values if any are passed. -/
  | execute (sql : String) (parameters : Option (List Value))
  /-- Executes SQL text on the connection, which gives a cursor. -/
  | executeDirectly (sql : String) (parameters : List Value)
  /-- Executes a script on the connection. -/
  | executeScript (sql : String)
  /-- Fetches the next row from the cursor. -/
  | fetch
  /-- Closes the cursor. -/
  | close

namespace EngineCall

/-- The name of a call, which tells the kinds of calls apart. -/
def label : EngineCall → String
  | cursor => "cursor"
  | execute .. => "execute"
  | executeDirectly .. => "conn.execute"
  | executeScript _ => "executescript"
  | fetch => "fetchone"
  | close => "close"

/-- The connection itself executes, and gives the cursor. -/
def isDirect : EngineCall → Bool
  | executeDirectly .. => true
  | cursor | execute .. | executeScript _ | fetch | close => false

end EngineCall

/-- How the transaction of a connection is ended. -/
inductive TransactionEnd where
  /-- Its changes are kept. -/
  | commit
  /-- Its changes are undone. -/
  | rollback

/-- Something that happens while an operation runs. -/
inductive Event where
  /-- A call on the connection or its cursor. -/
  | engine (call : EngineCall)
  /-- The connection is told to end its transaction. -/
  | ended (how : TransactionEnd)
  /-- The cursor is asked whether it shows a row count. -/
  | countAsked
  /-- The row count of the cursor is read. -/
  | countRead
  /-- A row is handed to a callback. -/
  | row (callback : Nat) (row : Value)
  /-- A record is logged. -/
  | logged (record : Log.Record)

namespace Event

/-- The call, if the event is one. -/
def call? : Event → Option EngineCall
  | engine c => some c
  | ended _ | countAsked | countRead | row .. | logged _ => none

/-- The event ends a transaction. -/
def endsTransaction : Event → Bool
  | ended _ => true
  | engine _ | countAsked | countRead | row .. | logged _ => false

/-- The record, if the event logs one. -/
def record? : Event → Option Log.Record
  | logged r => some r
  | engine _ | ended _ | countAsked | countRead | row .. => none

/-- The row, if the event hands one to the given callback. -/
def rowOf? (callback : Nat) : Event → Option Value
  | row c v => if c = callback then some v else none
  | engine _ | ended _ | countAsked | countRead | logged _ => none

/-- The calls among events. -/
def calls (events : List Event) : List EngineCall :=
  events.filterMap call?

/-- The records among events. -/
def records (events : List Event) : List Log.Record :=
  events.filterMap record?

/-- The rows handed to a callback among events. -/
def rowsOf (callback : Nat) (events : List Event) : List Value :=
  events.filterMap (rowOf? callback)

end Event

end AnnotatedSql
