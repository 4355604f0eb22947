import AnnotatedSql.Engine.Run
import AnnotatedSql.Value.Equality

/-!
# Connections

A connection answers calls. It is given by the rows that each of its cursors serves, the row
count a cursor shows, and the failures of calls, which may depend on all calls made before. So may
the row count, and whether it can be found.
-/

namespace AnnotatedSql

/-- How a connection behaves. -/
structure Connection where
  /-- The rows that each cursor serves from the start. -/
  rows : List Value
  /-- The row count that is found on a cursor after some events, or the failure to find it. -/
  rowCount : List Event → Except Failure Value
  /-- The failure of a call after the calls before it, if it fails. -/
  failure? : List EngineCall → EngineCall → Option Failure

namespace Connection

/-- Makes a call. -/
def call (connection : Connection) (c : EngineCall) : Run Unit :=
  fun events =>
    (match connection.failure? (Event.calls events) c with
      | none => .ok ()
      | some e => .error e,
      events ++ [.engine c])

/-- Asks the cursor whether it shows a row count. It does not if there is no such attribute. -/
def showsRowCount (connection : Connection) : Run Bool :=
  fun events =>
    (match connection.rowCount events with
      | .ok _ => .ok true
      | .error e => if e.kind.isBelow .attributeAccess then .ok false else .error e,
      events ++ [.countAsked])

/-- Reads the row count of the cursor. -/
def readRowCount (connection : Connection) : Run Value :=
  fun events => (connection.rowCount events, events ++ [.countRead])

end Connection

/-- A rule by which calls fail. -/
structure ScriptedFailure where
  /-- The name of the calls. -/
  on : String
  /-- Which of these calls fails, counted from one; none stands for all of them. -/
  at? : Option Value
  /-- The failure. -/
  failure : Failure

/-- The rule applies to a call after the calls before it. -/
def ScriptedFailure.applies (rule : ScriptedFailure) (before : List EngineCall) (c : EngineCall) :
    Bool :=
  rule.on == c.label
    && match rule.at? with
      | none => true
      | some v =>
        v.equal (.int ((before.filter fun b => b.label == c.label).length + 1 : Nat))

/-- The row count of a cursor: the one that is given, if any. Without one, a cursor that came of
executing on the connection shows minus one, and any other shows none. -/
def Connection.scriptedRowCount (rowCount : Option Value) (events : List Event) :
    Except Failure Value :=
  match rowCount with
  | some count => .ok count
  | none =>
    if (Event.calls events).any EngineCall.isDirect then .ok (.int (-1))
    else .error (.plain .attributeAccess "'Cursor' object has no attribute 'rowcount'")

/-- The connection whose calls fail by rules, the first that applies. -/
def Connection.scripted (rows : List Value) (rowCount : Option Value)
    (rules : List ScriptedFailure) : Connection :=
  { rows := rows
    rowCount := scriptedRowCount rowCount
    failure? := fun before c =>
      (rules.find? fun rule => rule.applies before c).map ScriptedFailure.failure }

/-- How a row callback behaves: what it gives back, or its failure, for a row after the rows it
was handed before. -/
structure RowCallback where
  /-- The answer to a row. -/
  answer : (before : List Value) → (row : Value) → Except Failure Value

namespace RowCallback

/-- Gives back nothing. -/
def collecting : RowCallback :=
  ⟨fun _ _ => .ok .none⟩

/-- Gives back the row. -/
def returningRow : RowCallback :=
  ⟨fun _ row => .ok row⟩

/-- Gives back a value. -/
def constant (v : Value) : RowCallback :=
  ⟨fun _ _ => .ok v⟩

/-- Fails on the row of a number, counted from one, and gives back nothing for the others. -/
def failingAt (number : Value) (e : Failure) : RowCallback :=
  ⟨fun before _ =>
    if number.equal (.int (before.length + 1 : Nat)) then .error e else .ok .none⟩

/-- The first element of a value. -/
def firstElement (v : Value) : Except Failure Value :=
  match v with
  | .list [] => .error (.plain .index "list index out of range")
  | .tuple [] => .error (.plain .index "tuple index out of range")
  | .text "" => .error (.plain .index "string index out of range")
  | .bytes [] => .error (.plain .index "index out of range")
  | .list (a :: _) => .ok a
  | .tuple (a :: _) => .ok a
  | .bytes (b :: _) => .ok (.int b.toNat)
  | .text s => .ok (.text (String.ofList (s.toList.take 1)))
  | .mapping _ => .error { kind := .key, arguments := [.int 0] }
  | v => .error (.plain .type ("'" ++ v.typeName ++ "' object is not subscriptable"))

/-- Gives back the first element of the row. -/
def returningFirst : RowCallback :=
  ⟨fun _ row => firstElement row⟩

end RowCallback

/-- What an operation can run on: a connection and the callbacks by their numbers. -/
structure Surroundings where
  /-- The connection. -/
  connection : Connection
  /-- The callbacks. -/
  callback? : Nat → Option RowCallback

/-- Surroundings without rows, failures and callbacks. -/
def Surroundings.empty : Surroundings :=
  ⟨.scripted [] none [], fun _ => none⟩

end AnnotatedSql
