import AnnotatedSql.Log.Logger

/-!
# Journals

A journal keeps the lines that have been written, how records are written, the current
correlation id, and the loggers that have been asked for.
-/

namespace AnnotatedSql.Log

/-- What has been logged and how logging goes on. -/
structure Journal where
  /-- How records are written, once that is configured. -/
  configuration : Option Configuration
  /-- The current correlation id. -/
  correlation : Value
  /-- The loggers. -/
  loggers : Loggers
  /-- The lines that have been written. -/
  lines : List String

namespace Journal

/-- Nothing logged, and nothing configured. -/
def empty (correlation : Value) : Journal :=
  ⟨none, correlation, .initial, []⟩

/-- The record as it leaves its logger: a logger with the filter puts the current correlation id
on it. -/
def marked (journal : Journal) (record : Record) : Record :=
  if journal.loggers.hasFilter record.logger then record.mark journal.correlation else record

/-- The journal with a record. -/
def write (journal : Journal) (record : Record) : Journal :=
  match journal.configuration with
  | none => journal
  | some c =>
    { journal with
      lines :=
        journal.lines ++ c.lines journal.loggers journal.correlation (journal.marked record) }

/-- The journal with records, in order. -/
def writeAll (journal : Journal) (records : List Record) : Journal :=
  records.foldl write journal

/-- The journal from now on written in a given way, which is logged first. -/
def configure (journal : Journal) (c : Configuration) : Journal :=
  { journal with configuration := some c }.write c.record

/-- Logs through the logger of a name. -/
def log (journal : Journal) (name : Option String) (record : Record) : Journal :=
  let (full, loggers) := journal.loggers.get name
  { journal with loggers := loggers }.write { record with logger := full }

end Journal

end AnnotatedSql.Log
