import AnnotatedSql.Failure.Basic

/-!
# Errors of assembly

Why a statement and its arguments make no query.
-/

namespace AnnotatedSql

/-- Why a statement and its arguments make no query. -/
inductive AssemblyError where
  /-- The statement's text depends on its arguments. -/
  | hasLists (statement : String)
  /-- A marker has no parameter, or a parameter has no argument. -/
  | missing (name : String)
  /-- The argument for a list has no elements. -/
  | notIterable (type : String)
  deriving DecidableEq, Repr

/-- The failure that the error is raised as. -/
def AssemblyError.failure : AssemblyError → Failure
  | hasLists statement =>
    .plain .value ("Statement " ++ Text.quoted statement
      ++ " has list parameters and must be assembled per call")
  | missing name => .plain .key name
  | notIterable type => .plain .type ("'" ++ type ++ "' object is not iterable")

end AnnotatedSql
