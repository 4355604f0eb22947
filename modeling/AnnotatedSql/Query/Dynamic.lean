import AnnotatedSql.Query.Static

/-!
# Queries built for one call

A statement with lists is written anew for every call. Its placeholders are numbered in the
order in which they appear. A list has one placeholder for each element, and `NULL` in their
place when it is empty.
-/

namespace AnnotatedSql

/-- SQL text and the values bound to its placeholders, in order. -/
structure BoundQuery where
  /-- The SQL text. -/
  sql : String
  /-- The value of each placeholder. -/
  parameters : List Value

namespace BoundQuery

/-- The placeholders of so many values after some others. -/
def placeholders (style : PlaceholderStyle) (before count : Nat) : List String :=
  (List.range count).map fun k => style.render (before + 1 + k : Nat)

/-- The text for the elements of a list after some other values. -/
def listText (style : PlaceholderStyle) (before count : Nat) : String :=
  if count = 0 then "NULL" else String.intercalate ", " (placeholders style before count)

/-- The arguments once those of the given name have been read. -/
def afterReading (name : String) (values : List (String × Value)) : List (String × Value) :=
  values.map fun (k, v) => (k, if k = name then v.afterReading else v)

/-- The texts of tokens and the values they bind, after so many other values. -/
def assembleFrom (style : PlaceholderStyle) (before : Nat) (values : List (String × Value)) :
    List Token → Except AssemblyError (List String × List Value)
  | [] => .ok ([], [])
  | .literal text :: rest =>
    (assembleFrom style before values rest).map fun (texts, bound) => (text :: texts, bound)
  | .marker m :: rest =>
    match values.lookup m.name with
    | none => .error (.missing m.name)
    | some v =>
      match m.multiplicity with
      | .scalar =>
        (assembleFrom style (before + 1) values rest).map fun (texts, bound) =>
          (style.render (before + 1 : Nat) :: texts, v :: bound)
      | .list =>
        match v.elements? with
        | none => .error (.notIterable v.typeName)
        | some elements =>
          let text := listText style before elements.length
          (assembleFrom style (before + elements.length) (afterReading m.name values) rest).map
            fun (texts, bound) => (text :: texts, elements ++ bound)

/-- A query of these tokens has a placeholder: it has none if it has no markers but those of empty
lists. -/
def hasPlaceholder (values : List (String × Value)) : List Token → Except AssemblyError Bool
  | [] => .ok false
  | .literal _ :: rest => hasPlaceholder values rest
  | .marker m :: rest =>
    match values.lookup m.name with
    | none => .error (.missing m.name)
    | some v =>
      match m.multiplicity with
      | .scalar => .ok true
      | .list =>
        match v.elements? with
        | none => .error (.notIterable v.typeName)
        | some [] => hasPlaceholder (afterReading m.name values) rest
        | some (_ :: _) => .ok true

/-- The query of a statement for one call. -/
def assembleDynamic (s : Statement) (values : List (String × Value)) (style : PlaceholderStyle) :
    Except AssemblyError BoundQuery :=
  (assembleFrom style 0 values s.tokens).map fun (texts, bound) => ⟨String.join texts, bound⟩

/-- The query of a statement for one call, whether its text is fixed or not. -/
def assemble (s : Statement) (values : List (String × Value)) (style : PlaceholderStyle) :
    Except AssemblyError BoundQuery :=
  if s.isDynamic then assembleDynamic s values style
  else
    match StaticQuery.build s style with
    | .error e => .error e
    | .ok q => (q.bind values).map fun bound => ⟨q.sql, bound⟩

/-- The text of a query and what is given as its values, in descriptions. -/
def describeParts (sql : String) (parameters : Value) : String :=
  "AssembledQuery(sql=" ++ Text.quoted sql ++ ", parameters=" ++ parameters.describe ++ ")"

/-- The query in descriptions. -/
def describe (q : BoundQuery) : String :=
  describeParts q.sql (.list q.parameters)

end BoundQuery

end AnnotatedSql
