import AnnotatedSql.Query.AssemblyError
import AnnotatedSql.Query.Placeholder
import AnnotatedSql.Statement.Basic

/-!
# Queries with a fixed text

The SQL text of a statement whose parameters are all scalars does not depend on the arguments.
Each parameter has one placeholder, numbered by its place among the parameters, wherever its
markers stand.
-/

namespace AnnotatedSql

/-- A query whose text is fixed. -/
structure StaticQuery where
  /-- The SQL text. -/
  sql : String
  /-- The parameter bound at each placeholder number, in order. A number that no placeholder has
  is left out. -/
  bindOrder : List (Option String)
  deriving DecidableEq, Repr

namespace StaticQuery

/-- The placeholder number of a parameter; of two with one name the last counts. -/
def index? (s : Statement) (name : String) : Option Int :=
  (s.parameters.reverse.find? fun p => p.name == name).map Parameter.index

/-- The text of one token. -/
def tokenText (style : PlaceholderStyle) (s : Statement) : Token → Except AssemblyError String
  | .literal text => .ok text
  | .marker m =>
    match index? s m.name with
    | some index => .ok (style.render index)
    | none => .error (.missing m.name)

/-- The body has a marker of the name. -/
def isReferenced (s : Statement) (name : String) : Bool :=
  (Token.markers s.tokens).any fun m => m.name == name

/-- The greatest placeholder number of the body, or zero. -/
def highest (s : Statement) : Int :=
  ((Token.markers s.tokens).filterMap fun m => index? s m.name).max?.getD 0

/-- The first so many of a list; for a number below zero, all but so many at its end. -/
def upTo (n : Int) (xs : List Parameter) : List Parameter :=
  if n < 0 then xs.take (xs.length - n.natAbs) else xs.take n.toNat

/-- The query of a statement without lists. -/
def build (s : Statement) (style : PlaceholderStyle) : Except AssemblyError StaticQuery :=
  if s.isDynamic then .error (.hasLists s.name)
  else
    (s.tokens.mapM (tokenText style s)).map fun texts =>
      { sql := String.join texts
        bindOrder := (upTo (highest s) s.parameters).map fun p =>
          if isReferenced s p.name then some p.name else none }

/-- The number of the placeholder that is written first, if there is any. -/
def firstIndex? (s : Statement) : Except AssemblyError (Option Int) :=
  match Token.markers s.tokens with
  | [] => .ok none
  | m :: _ =>
    match index? s m.name with
    | some index => .ok (some index)
    | none => .error (.missing m.name)

/-- The values to bind, in the order of the placeholder numbers. -/
def bind (q : StaticQuery) (values : List (String × Value)) : Except AssemblyError (List Value) :=
  q.bindOrder.mapM fun
    | none => .ok .none
    | some name =>
      match values.lookup name with
      | some v => .ok v
      | none => .error (.missing name)

/-- The query in descriptions. -/
def describe (q : StaticQuery) : String :=
  "StaticQuery(sql=" ++ Text.quoted q.sql ++ ", bind_order="
    ++ (Value.tuple (q.bindOrder.map Value.ofText?)).describe ++ ")"

end StaticQuery

end AnnotatedSql
