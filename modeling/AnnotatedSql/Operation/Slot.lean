import AnnotatedSql.Engine.Run

/-!
# Slots

A container keeps the settings and the adapter of its operations under names that an operation or
a container within may be added under too. What is added then stands in the slot. It is asked for
what was kept there, and answers as far as it has something under the name asked for.
-/

namespace AnnotatedSql

/-- What stands in the slot of a container: what is kept there, or something that was added in its
place. A container within is known by the names that lead to it, of which there is at least
one. -/
inductive Slot (α : Type) where
  /-- What is kept there. -/
  | held (a : α)
  /-- An operation. -/
  | operation
  /-- A container within. -/
  | container (name : String) (below : List String)
  deriving DecidableEq, Repr

/-- The failure of asking something for what it does not have. -/
def missingAttribute (typeName name : String) : Failure :=
  .plain .attributeAccess ("'" ++ typeName ++ "' object has no attribute '" ++ name ++ "'")

/-- The failure of calling something that is no operation. -/
def notCallable (typeName : String) : Failure :=
  .plain .type ("'" ++ typeName ++ "' object is not callable")

/-- How something answers that stands in a slot without being what is kept there. -/
structure Replacement where
  /-- The name of its type. -/
  typeName : String
  /-- It counts as true. -/
  isTrue : Bool
  /-- Calls what it has under a name with arguments by position. -/
  call : String → List Value → Run Value

/-- An operation has nothing that is asked for. -/
def Replacement.operation : Replacement :=
  { typeName := "function"
    isTrue := true
    call := fun name _ => .fail (missingAttribute "function" name) }

/-- What no style is cannot render a placeholder. A call of what it has under that name fails,
since a number is no connection. -/
def Replacement.refuseRendering {α : Type} (r : Replacement) (index : Int) : Run α := do
  let _ ← r.call "render" [.int index]
  .fail (missingAttribute r.typeName "render")

namespace Slot

/-- What is kept in a slot, or what answers in its place. The containers within are looked up by
their names. -/
def resolve {α : Type} (containers : String → List String → Replacement) :
    Slot α → Except Replacement α
  | held a => .ok a
  | operation => .error .operation
  | container name below => .error (containers name below)

/-- The slot of a container within, seen from outside of it. -/
def within {α : Type} (outer : String) : Slot α → Slot α
  | container name below => container outer (name :: below)
  | slot => slot

end Slot

end AnnotatedSql
