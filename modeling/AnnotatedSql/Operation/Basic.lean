import AnnotatedSql.Engine.Adapter
import AnnotatedSql.Operation.Arguments
import AnnotatedSql.Operation.Slot
import AnnotatedSql.Query.Dynamic
import AnnotatedSql.Settings

/-!
# Operations

An operation runs a statement. Its signature, and its SQL text if that does not depend on the
arguments, are fixed when it is made. The style of its placeholders, its adapter and whether it
checks types come from the slots of a container.
-/

namespace AnnotatedSql

/-- The kind whose selector a value is. -/
def StatementKind.ofValue (value : Value) : Except Failure StatementKind :=
  let kind? := match value with
    | .text s => ofSelector? s
    | _ => none
  match kind? with
  | some kind => .ok kind
  | none =>
    .error (.saying (Failure.described value) fun text =>
      .plain .value (text ++ " is not a valid OperationKind"))

/-- A statement ready to run. -/
structure Operation where
  /-- The statement. -/
  statement : Statement
  /-- Its arguments and result. -/
  signature : Signature
  /-- How placeholders are written. -/
  style : Slot PlaceholderStyle
  /-- The query, if its text does not depend on the arguments. -/
  static : Option StaticQuery
  /-- Arguments are checked against declared types. -/
  checkTypes : Slot Bool
  /-- What runs the queries. -/
  adapter : Slot Adapter

namespace Operation

/-- The SQL text, or the body with its markers if the text depends on the arguments. -/
def sql (op : Operation) : String :=
  match op.static with
  | some q => q.sql
  | none => op.statement.template

/-- An operation of a container within, seen from outside of it. -/
def within (outer : String) (op : Operation) : Operation :=
  { op with
    style := op.style.within outer
    checkTypes := op.checkTypes.within outer
    adapter := op.adapter.within outer }

/-- Lines are numbered from zero on with thirty-one bits. -/
def lineFault? (line : Int) : Option Failure :=
  if line < -2147483648 || 2147483647 < line then
    some (.plain .overflow "Python int too large to convert to C int")
  else if line < 0 then some (.plain .value "co_firstlineno must be a positive integer")
  else none

/-- The query that is fixed when an operation is made, if its text does not depend on the
arguments. -/
def fixedQuery (s : Statement) (query : Except Failure StaticQuery) :
    Except Failure (Option StaticQuery) :=
  if s.isDynamic then .ok none else query.map some

/-- Makes the operation of a statement from what its slots hold. Of several failures the first
counts: that of the signature, of the query, of the type checks, of the line. -/
def build (s : Statement) (style : Slot PlaceholderStyle) (query : Except Failure StaticQuery)
    (checkTypes : Except Failure (Slot Bool)) (adapter : Slot Adapter) :
    Except Failure Operation := do
  let signature ← (Signature.ofStatement s).mapError SignatureError.failure
  let static ← fixedQuery s query
  let checkTypes ← checkTypes
  match s.block.bind fun b => lineFault? b.startLine with
  | some fault => .error fault
  | none => .ok { statement := s, signature, style, static, checkTypes, adapter }

/-- Makes the operation of a statement for an adapter under settings. The settings' style goes
before the adapter's. -/
def make (s : Statement) (adapter : Adapter) (settings : Settings) : Except Failure Operation :=
  let style := settings.style.getD adapter.style
  build s (.held style) ((StaticQuery.build s style).mapError AssemblyError.failure)
    (.ok (.held settings.checkTypes.isTrue)) (.held adapter)

end Operation

end AnnotatedSql
