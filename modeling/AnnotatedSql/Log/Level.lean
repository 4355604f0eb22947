import AnnotatedSql.Failure.Basic
import AnnotatedSql.Text.Capital
import AnnotatedSql.Value.Equality

/-!
# Log levels

How important a record is, as a number; some numbers have names. A level is shown by what it was
given as, so that a number without a name, and what counts as a number, are told apart.
-/

namespace AnnotatedSql.Log

/-- How important a record is. -/
structure Level where
  /-- The number it counts as. -/
  number : Int
  /-- What it was given as. -/
  given : Value

namespace Level

/-- The level of a number. -/
def ofNumber (n : Int) : Level := ⟨n, .int n⟩

def notSet : Level := ofNumber 0
def debug : Level := ofNumber 10
def info : Level := ofNumber 20
def warning : Level := ofNumber 30
def error : Level := ofNumber 40
def critical : Level := ofNumber 50

/-- The names a level can be chosen by. -/
def names : List (String × Level) :=
  [("NOTSET", notSet), ("DEBUG", debug), ("INFO", info), ("WARNING", warning), ("WARN", warning),
    ("ERROR", error), ("CRITICAL", critical), ("FATAL", critical)]

/-- The level of a name in capital letters. -/
def ofName? (name : String) : Option Level :=
  names.lookup name

/-- A level without a name. A tuple is shown by its only value. -/
def unnamed : Value → String
  | .tuple [v] => "Level " ++ v.display
  | v => "Level " ++ v.display

/-- What a level is shown by: the name of a number that has one, and the number of a name. -/
def label (level : Level) : Value :=
  match names.find? fun e => e.2.given.equal level.given with
  | some (name, _) => .text name
  | none =>
    match level.given with
    | .text s =>
      match ofName? s with
      | some named => named.given
      | none => .text (unnamed (.text s))
    | v => .text (unnamed v)

/-- The level that counts is chosen by a value: a number, or a name in any case. -/
def ofValue (v : Value) : Except Failure Level :=
  match v.integer?, v with
  | some n, v => .ok ⟨n, v⟩
  | none, .text s =>
    let name := Text.capitals s
    match ofName? name with
    | some level => .ok level
    | none => .error (.plain .value ("Unknown level: " ++ Text.quoted name))
  | none, v =>
    .error (.saying (Failure.described v) fun text =>
      .plain .type ("Level not an integer or a valid string: " ++ text))

/-- The level of a record that is logged is a whole number. -/
def ofNumber? (v : Value) : Except Failure Level :=
  match v.integer? with
  | some n => .ok ⟨n, v⟩
  | none => .error (.plain .type "level must be an integer")

/-- The level of a record that is only written may be anything that levels can be looked up by and
that has one value to show, which can be shown. -/
def ofAny (v : Value) : Except Failure Level :=
  match v.hashCode, v with
  | .error type, _ => .error (.plain .type ("unhashable type: '" ++ type ++ "'"))
  | .ok _, .tuple [] => .error (.plain .type "not enough arguments for format string")
  | .ok _, .tuple (_ :: _ :: _) =>
    .error (.plain .type "not all arguments converted during string formatting")
  | .ok _, v => (Failure.shown v).map fun _ => ⟨v.integer?.getD 0, v⟩

end Level

end AnnotatedSql.Log
