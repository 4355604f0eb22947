import AnnotatedSql.Json.Encoder
import AnnotatedSql.Log.Record

/-!
# Lines of a log

A structured line is one JSON object. The fields that say what a record is about stand beside
the message, all others under the context. The SQL text is left out unless it is asked for. A
plain line shows the time, the level, the logger and the message.
-/

namespace AnnotatedSql.Log

/-- The fields that stand beside the message, in this order. -/
def statementFields : List String :=
  ["statement", "operation", "location", "source", "path"]

/-- The field of the SQL text. -/
def sqlField : String := "sql"

/-- Names that failures have in front in full: those of the library and of the driver. -/
def moduleOf (kind : ErrorKind) : String :=
  if kind.isLibrary then "sqlinclude.exceptions."
  else if kind.isBelow .driver then "sqlite3."
  else ""

/-- A failure in a log: its kind and, unless it is empty, its message. -/
def failureText (qualified : Bool) (f : Failure) : String :=
  let kind := (if qualified then moduleOf f.kind else "") ++ f.kind.label
  let message := match f.text with
    | .ok message => message
    | .error _ => "<exception str() failed>"
  if message = "" then kind else kind ++ ": " ++ message

/-- How structured lines are written. -/
structure Format where
  /-- The SQL text is included. -/
  includeSql : Bool
  /-- How the time of a record is shown. -/
  time : Moment → String
  /-- The kinds of failures are shown in full. -/
  qualified : Bool
  /-- What writes the object of a line. -/
  encoder : Json.Encoder := .standard

/-- The record with a correlation id on it, unless that counts as false. -/
def Record.mark (record : Record) (current : Value) : Record :=
  { record with correlation := if current.isTrue then current else record.correlation }

/-- The correlation id that is written: that of the record or else the current one, unless both
count as false. -/
def Record.correlationOr (record : Record) (current : Value) : Option Value :=
  [record.correlation, current].find? Value.isTrue

/-- A key is the given name. -/
def isName (name : String) : Value → Bool
  | .text s => s == name
  | _ => false

/-- The fields that are written. -/
def Format.kept (format : Format) (fields : List (Value × Value)) : List (Value × Value) :=
  if format.includeSql then fields else fields.filter fun e => !isName sqlField e.1

/-- The fields beside the message: those that say what a record is about and have a value. -/
def besideMessage (fields : List (Value × Value)) : List (String × Value) :=
  statementFields.filterMap fun name =>
    match fields.find? fun e => isName name e.1 with
    | none | some (_, .none) => none
    | some (_, v) => some (name, v)

/-- The fields under the context, each under the text that stands for its key. -/
def context (encoder : Json.Encoder) (fields : List (Value × Value)) :
    Except Failure (List (String × Value)) :=
  (fields.filter fun e => !statementFields.any fun name => isName name e.1).mapM
    fun (key, value) => (encoder.key key).map fun name => (name, value)

/-- The entries of a structured line, where a correlation id holds for records without one. -/
def Format.entry (format : Format) (current : Value) (record : Record) (message : String)
    (fields : List (Value × Value)) (others : List (String × Value)) : List (String × Value) :=
  [("timestamp", .text (format.time record.created)), ("level", record.level.label),
    ("logger", .text record.logger), ("message", .text message)]
    ++ besideMessage fields
    ++ (match record.correlationOr current with
      | some id => [("correlation_id", id)]
      | none => [])
    ++ (if others.isEmpty then [] else [("context", .mapping others)])
    ++ (match record.failure with
      | some f => [("exception", .text (failureText format.qualified f))]
      | none => [])

/-- The structured line of a record. -/
def Format.line (format : Format) (current : Value) (record : Record) :
    Except Failure String := do
  let message ← record.message
  let fields ← record.entries
  let kept := format.kept fields
  let others ← context format.encoder kept
  format.encoder.text (.mapping (format.entry current record message kept others))

/-- The plain text of a record. A failure stands on a line of its own. -/
def plainText (record : Record) : Except Failure String :=
  record.message.map fun message =>
    let line := record.created.text ++ " " ++ record.level.label.display ++ " " ++
      record.logger ++ ": " ++ message
    match record.failure with
    | none => line
    | some f =>
      let separated := if line.toList.getLast? = some '\n' then line else line ++ "\n"
      separated ++ failureText false f

end AnnotatedSql.Log
