import AnnotatedSql.Statement.Lexeme
import AnnotatedSql.Text.Quoted

/-!
# Tokens of a statement's body

A body alternates between literal text and markers. Its tokens are the markers, in order, and
the texts between them that are not empty; together they are the body again.
-/

namespace AnnotatedSql

/-- A part of a statement's body. -/
inductive Token where
  /-- Text that is kept as it is. -/
  | literal (text : String)
  /-- The place of a parameter. -/
  | marker (marker : Marker)
  deriving DecidableEq, Repr

namespace Token

/-- The token as it is written. -/
def text : Token → String
  | literal text => text
  | marker m => m.text

/-- The text of a body with these tokens. -/
def template (tokens : List Token) : String :=
  String.join (tokens.map text)

/-- The marker, if the token is one. -/
def marker? : Token → Option Marker
  | literal _ => none
  | marker m => some m

/-- The markers of a body, in order. -/
def markers (tokens : List Token) : List Marker :=
  tokens.filterMap marker?

/-- The text before the first marker, and each marker with the text after it. -/
def passages : List Lexeme → List Char × List (Marker × List Char)
  | [] => ([], [])
  | .plain c :: rest =>
    let (first, others) := passages rest
    (c :: first, others)
  | .passage cs :: rest =>
    let (first, others) := passages rest
    (cs ++ first, others)
  | .marker multiplicity name :: rest =>
    let (first, others) := passages rest
    ([], (⟨String.ofList name, multiplicity⟩, first) :: others)

/-- The token of a literal text, unless it is empty. -/
def ofText : List Char → List Token
  | [] => []
  | cs => [literal (String.ofList cs)]

/-- The tokens of a text with some markers and texts after it. -/
def ofPassages (first : List Char) (others : List (Marker × List Char)) : List Token :=
  ofText first ++ others.flatMap fun (m, text) => marker m :: ofText text

/-- The tokens of a body. -/
def scan (body : String) : List Token :=
  let (first, others) := passages (Lexeme.scan body.toList)
  ofPassages first others

/-- The token in descriptions. -/
def describe : Token → String
  | literal text => "Literal(" ++ Text.quoted text ++ ")"
  | marker m => "ParamRef(" ++ m.text ++ ")"

/-- Tokens in descriptions; a single one has a comma after it. -/
def describeAll : List Token → String
  | [t] => "(" ++ t.describe ++ ",)"
  | ts => "(" ++ String.intercalate ", " (ts.map describe) ++ ")"

end Token

end AnnotatedSql
