import AnnotatedSql.Log.Structured
import AnnotatedSql.Text.Lines

/-!
# Loggers

Loggers form a hierarchy by their names: what is logged below the root logger of the library
comes to its handler once that is configured. A logger carries a filter that puts the current
correlation id on its records.
-/

namespace AnnotatedSql.Log

/-- The full name of a logger: without a name the root, and below the root unless the name
starts like it. -/
def fullName : Option String → String
  | none => rootName
  | some name => if rootName.toList.isPrefixOf name.toList then name else rootName ++ "." ++ name

/-- The loggers that carry the filter. -/
structure Loggers where
  /-- Their names. -/
  filtered : List String
  deriving DecidableEq, Repr

/-- The loggers that the library itself has asked for. -/
def Loggers.initial : Loggers :=
  ⟨["sqlinclude.compiler", "sqlinclude.loader", "sqlinclude.operations", "sqlinclude.resolver"]⟩

/-- A logger carries the filter. -/
def Loggers.hasFilter (loggers : Loggers) (name : String) : Bool :=
  loggers.filtered.contains name

/-- Asks for a logger: its full name, and all loggers afterwards. A logger asked for by name
carries the filter from then on. -/
def Loggers.get (loggers : Loggers) (name : Option String) : String × Loggers :=
  match name with
  | none => (rootName, loggers)
  | some _ =>
    let full := fullName name
    (full, if loggers.hasFilter full then loggers else ⟨loggers.filtered ++ [full]⟩)

/-- The logger exists: it is the root, or it has been asked for by its name. -/
def Loggers.knows (loggers : Loggers) (name : String) : Bool :=
  name == rootName || loggers.hasFilter name

/-- The name that characters give backwards. -/
def backwards (cs : List Char) : String :=
  String.ofList cs.reverse

/-- The root is found above a name, which is given backwards. What stands before a point is the name
of a logger above. The nearest one that exists is gone on from; where there is none of the name, the
search leaves out the character before the point, so that of points in a row every second one
counts. -/
def Loggers.findsRoot (loggers : Loggers) : List Char → Bool
  | '.' :: c :: rest =>
    if loggers.knows (backwards (c :: rest)) then
      backwards (c :: rest) == rootName || loggers.findsRoot (c :: rest)
    else loggers.findsRoot rest
  | _ :: rest => loggers.findsRoot rest
  | [] => false

/-- The logger is the root of the library's loggers or lies below it. -/
def Loggers.governs (loggers : Loggers) (name : String) : Bool :=
  name == rootName || loggers.findsRoot name.toList.reverse

/-- How records are written. -/
structure Configuration where
  /-- The least level that is written. -/
  level : Level
  /-- Lines are structured if this counts as true. -/
  structured : Value
  /-- Structured lines include the SQL text if this counts as true. -/
  includeSql : Value
  /-- How many handlers there are besides the one that writes. -/
  otherHandlers : Nat

namespace Configuration

/-- How records are written where nothing else is said. -/
def standard : Configuration :=
  { level := .info, structured := .bool true, includeSql := .bool false, otherHandlers := 0 }

/-- The record of the configuration itself. -/
def record (c : Configuration) : Record :=
  { logger := rootName
    level := .debug
    template := "sqlinclude logging configured"
    fields := .mapping
      [("level", c.level.label), ("structured", c.structured), ("include_sql", c.includeSql),
        ("handlers_count", .int (c.otherHandlers + 1 : Nat))] }

/-- The least level that counts: without one it is the level of warnings. -/
def threshold (c : Configuration) : Int :=
  if c.level.number = 0 then Level.warning.number else c.level.number

/-- A record is written. -/
def accepts (c : Configuration) (loggers : Loggers) (record : Record) : Bool :=
  loggers.governs record.logger && decide (0 < record.level.number)
    && decide (c.threshold ≤ record.level.number)

/-- The text of a record, where a correlation id holds. -/
def text (c : Configuration) (current : Value) (record : Record) : Except Failure String :=
  if c.structured.isTrue then
    Format.line { includeSql := c.includeSql.isTrue, time := Moment.text, qualified := false }
      current record
  else plainText record

/-- The lines written for a record, where a correlation id holds. Nothing is written for a
record without a message. -/
def lines (c : Configuration) (loggers : Loggers) (current : Value) (record : Record) :
    List String :=
  if c.accepts loggers record then
    match c.text current record with
    | .ok text => Text.lines text
    | .error _ => []
  else []

end Configuration

end AnnotatedSql.Log
