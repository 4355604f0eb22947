import AnnotatedSql.Statement.Directive
import AnnotatedSql.Statement.Problem

/-!
# Parameter declarations

A declaration gives a parameter's name and type. One value is declared by a colon and the type,
a list of values by a number sign and the type of its elements between brackets or parentheses.
-/

namespace AnnotatedSql

open Text

/-- A declared parameter. -/
structure Declaration where
  /-- What the parameter is called. -/
  name : String
  /-- The type as it was written. -/
  declaredType : String
  /-- Whether it stands for one value or a list. -/
  multiplicity : Multiplicity
  deriving DecidableEq, Repr

namespace Declaration

/-- The type that follows the colon of a scalar: one line of text that is not blank. -/
def scalarType? (text : List Char) : Option (List Char) :=
  match trim text with
  | [] => none
  | type => if type.contains '\n' then none else some type

/-- The text between an opening bracket that is already read and the first closing one, which
only blanks may follow. -/
def bracketed? (text : List Char) : Option (List Char) :=
  match text.dropWhile (· != ']') with
  | [] => none
  | _ :: rest =>
    if isBlankText rest then some (trim (text.takeWhile (· != ']'))) else none

/-- The text between an opening parenthesis that is already read and the closing one that ends
the line. -/
def parenthesized? (text : List Char) : Option (List Char) :=
  match (trimRight text).reverse with
  | ')' :: inside =>
    let type := trim inside.reverse
    if type.contains '\n' then none else some type
  | _ => none

/-- The element type that follows the number sign of a list. It may be empty. -/
def elementType? (text : List Char) : Option (List Char) :=
  match trimLeft text with
  | '[' :: rest => bracketed? rest
  | '(' :: rest => parenthesized? rest
  | _ => none

/-- The name, multiplicity and type of a declaration, unless the line is malformed. -/
def parts? (line : List Char) : Option (List Char × Multiplicity × List Char) := do
  let argument ← Directive.argument? .param line
  let (name, rest) ← headerName? argument
  match trimLeft rest with
  | ':' :: text => (scalarType? text).map fun type => (name, .scalar, type)
  | '#' :: text => (elementType? text).map fun type => (name, .list, type)
  | _ => none

/-- Reads one declaration line. -/
def parse (line : String) (location : Option String) : Except CompileError Declaration :=
  match parts? line.toList with
  | none => .error ⟨.malformedDeclaration (strip line), none, location⟩
  | some (_, _, []) => .error ⟨.missingElementType (strip line), none, location⟩
  | some (name, multiplicity, type) =>
    .ok ⟨String.ofList name, String.ofList type, multiplicity⟩

/-- The declaration in descriptions. -/
def describe (d : Declaration) : String :=
  "ParameterDeclaration(" ++ quoted d.name ++ ", " ++ quoted d.declaredType ++ ", "
    ++ d.multiplicity.label ++ ")"

end Declaration

end AnnotatedSql
