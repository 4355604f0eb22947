import AnnotatedSql.Log.Structured
import AnnotatedSql.Proofs.Entries
import AnnotatedSql.Proofs.Json.Encoder
import AnnotatedSql.Proofs.Outcome

/-!
# What a structured line says

The line of a record is one JSON object. Every field of the record has one place in it: beside the
message, under the context, or nowhere. What stands beside the message otherwise is the record's own
and does not depend on its fields, whatever they are called. All this holds for any encoder and any
decoder that keep the promises of JSON.
-/

set_option autoImplicit false

namespace AnnotatedSql.Log

/-- Fields by names, as the fields of a record by keys. -/
def named (fields : List (String × Value)) : List (Value × Value) :=
  fields.map fun (name, value) => (.text name, value)

/-- The keys that a line may have, in order. -/
def lineFields : List String :=
  ["timestamp", "level", "logger", "message"] ++ statementFields
    ++ ["correlation_id", "context", "exception"]

/-- The value found, unless it is nothing. -/
def given? : Option Value → Option Value
  | none | some .none => none
  | some v => some v

/-- The fields that are left when the SQL text is left out where it has to be. -/
def Format.shown (format : Format) (fields : List (String × Value)) : List (String × Value) :=
  fields.filter fun e => format.includeSql || e.1 != sqlField

/-- The fields that are under the context. -/
def Format.others (format : Format) (fields : List (String × Value)) : List (String × Value) :=
  (format.shown fields).filter fun e => !statementFields.contains e.1

/-- What a line says about a record with a message and fields, where a correlation id holds for
records without one. -/
structure Format.Describes (format : Format) (current : Value) (record : Record) (message : String)
    (fields line : List (String × Value)) : Prop where
  /-- A line has no other keys than these, in this order. -/
  keys : (line.map Prod.fst).Sublist lineFields
  timestamp : line.lookup "timestamp" = some (.text (format.time record.created))
  level : line.lookup "level" = some record.level.label
  logger : line.lookup "logger" = some (.text record.logger)
  message : line.lookup "message" = some (.text message)
  /-- A field that says what the record is about stands beside the message, unless it is nothing. -/
  beside : ∀ name ∈ statementFields, ∀ v,
    line.lookup name = some v ↔ fields.lookup name = some v ∧ v ≠ .none
  /-- The correlation id of the record comes first. -/
  correlation : line.lookup "correlation_id" =
    if record.correlation.isTrue then some record.correlation
    else if current.isTrue then some current
    else none
  /-- All other fields stand under the context, but for the SQL text where that is left out. There
  is no context without any. -/
  context : ∃ others : List (String × Value), (others.map Prod.fst).Nodup ∧
    (∀ key, others.lookup key =
      if key ∈ statementFields ∨ format.includeSql = false ∧ key = sqlField then none
      else fields.lookup key) ∧
    line.lookup "context" = if others.isEmpty then none else some (.mapping others)
  exception : line.lookup "exception" =
    record.failure.map fun f => .text (failureText format.qualified f)

end AnnotatedSql.Log
