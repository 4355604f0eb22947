import AnnotatedSql.Statement.Block
import AnnotatedSql.Statement.Kind
import AnnotatedSql.Statement.Parameter
import AnnotatedSql.Statement.Token

/-!
# Statements

A compiled statement: its name and kind, its parameters in their final order, and its body as
tokens.
-/

namespace AnnotatedSql

/-- A compiled statement. -/
structure Statement where
  /-- What it is called. -/
  name : String
  /-- What running it gives back. -/
  kind : StatementKind
  /-- Its parameters, in the order of the arguments. -/
  parameters : List Parameter
  /-- Its body. -/
  tokens : List Token
  /-- What its header says about it. -/
  doc : String
  /-- The block it was compiled from. -/
  block : Option Block
  deriving DecidableEq, Repr

namespace Statement

/-- A parameter stands for a list, so that the SQL text depends on the arguments. -/
def isDynamic (s : Statement) : Bool :=
  s.parameters.any Parameter.isList

/-- The names of the parameters, in order. -/
def parameterNames (s : Statement) : List String :=
  s.parameters.map Parameter.name

/-- The body with its markers, as it was written. -/
def template (s : Statement) : String :=
  Token.template s.tokens

/-- The first parameter of a name. -/
def parameter? (s : Statement) (name : String) : Option Parameter :=
  s.parameters.find? fun p => p.name == name

/-- The statement in descriptions. -/
def describe (s : Statement) : String :=
  "StatementDescriptor(" ++ s.name ++ s.kind.selector ++ " ("
    ++ String.intercalate ", "
      (s.parameters.map fun p => p.multiplicity.sigil.toString ++ p.name)
    ++ "))"

end Statement

end AnnotatedSql
