/-!
# Kinds of statements

The kind of a statement is what running it gives back. The selector after the statement's name
chooses it.
-/

namespace AnnotatedSql

/-- What running a statement gives back. -/
inductive StatementKind where
  /-- Any number of rows, each handed to a callback. -/
  | query
  /-- The number of rows it changed. -/
  | execute
  /-- Nothing: a script of several commands without parameters. -/
  | batch
  /-- What the callback makes of its single row. -/
  | returning
  deriving DecidableEq, Repr

namespace StatementKind

/-- The sign after the statement's name. -/
def selector : StatementKind → String
  | query => "?"
  | execute => "!"
  | batch => "&"
  | returning => "->"

/-- The kind a selector stands for. -/
def ofSelector? (s : String) : Option StatementKind :=
  if s = "?" then some query
  else if s = "!" then some execute
  else if s = "&" then some batch
  else if s = "->" then some returning
  else none

/-- The kind in words. -/
def label : StatementKind → String
  | query => "query"
  | execute => "execute"
  | batch => "batch"
  | returning => "returning"

/-- The kind in capital letters. -/
def constant : StatementKind → String
  | query => "QUERY"
  | execute => "EXECUTE"
  | batch => "BATCH"
  | returning => "RETURNING"

/-- The kind a label names. -/
def ofLabel? (s : String) : Option StatementKind :=
  if s = "query" then some query
  else if s = "execute" then some execute
  else if s = "batch" then some batch
  else if s = "returning" then some returning
  else none

/-- Statements of this kind hand rows to a callback. -/
def takesCallback : StatementKind → Bool
  | query | returning => true
  | execute | batch => false

/-- Every kind is read back from its selector. -/
@[simp] theorem ofSelector?_selector (k : StatementKind) : ofSelector? k.selector = some k := by
  cases k <;> rfl

end StatementKind

end AnnotatedSql
