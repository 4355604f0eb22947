import AnnotatedSql.Failure.Basic
import AnnotatedSql.Statement.Basic
import AnnotatedSql.Text.Digit
import AnnotatedSql.Text.Identifier

/-!
# Signatures

An operation takes the connection first, then the statement's parameters in order, then the row
callback if its kind hands rows to one. The arguments have different names, each an identifier
that is no reserved word.
-/

namespace AnnotatedSql

/-- The name of the argument for the connection. -/
def connectionName : String := "conn"

/-- The name of the argument for the row callback. -/
def callbackName : String := "row_callback"

/-- Why a statement has no signature. -/
inductive SignatureError where
  /-- A parameter is called like the connection or the callback. -/
  | reserved (error : CompileError)
  /-- A parameter's name is empty. -/
  | emptyName
  /-- A parameter's name is no identifier, or a reserved word. -/
  | invalidName (name : String)
  /-- A parameter is one of those that arguments can only be given to by position. -/
  | positionalOnly
  /-- Two parameters have one name. -/
  | duplicate (name : String)
  deriving DecidableEq, Repr

/-- The failure that the error is raised as. -/
def SignatureError.failure : SignatureError → Failure
  | reserved e => .ofCompileError e
  | emptyName => .plain .index "string index out of range"
  | invalidName name => .plain .value (Text.quoted name ++ " is not a valid parameter name")
  | positionalOnly =>
    .plain .value
      "wrong parameter order: positional or keyword parameter before positional-only parameter"
  | duplicate name => .plain .value ("duplicate parameter name: " ++ Text.quoted name)

/-- An argument of an operation. -/
structure Argument where
  /-- What it is called. -/
  name : String
  /-- What it takes, in words; the connection may be anything. -/
  annotation : Option String
  deriving DecidableEq, Repr

/-- The arguments of an operation and what it gives back. -/
structure Signature where
  /-- The arguments, in order. -/
  arguments : List Argument
  /-- What the operation gives back, in words. -/
  result : String
  deriving DecidableEq, Repr

namespace Signature

/-- The name that is given to an argument without one. A point and digits stand for such an
argument, which can only be passed by position. -/
def implicitName? : List Char → Option String
  | '.' :: digits =>
    if !digits.isEmpty && digits.all Text.isDigit then
      some ("implicit" ++ String.ofList digits)
    else none
  | _ => none

/-- What is wrong with the name of a parameter by itself. -/
def nameError? (s : Statement) (name : String) : Option SignatureError :=
  if name = connectionName || name = callbackName then
    some (.reserved ⟨.reservedParameter name, some s.name, s.block.map Block.location⟩)
  else if name = "" then some .emptyName
  else
    match implicitName? name.toList with
    | some given => if Text.isIdentifier given.toList then none else some (.invalidName given)
    | none =>
      if Text.reservedWords.contains name || !Text.isIdentifier name.toList then
        some (.invalidName name)
      else none

/-- What is wrong with the names of parameters together. -/
def orderError? : (seen : List String) → List String → Option SignatureError
  | _, [] => none
  | seen, name :: rest =>
    if (implicitName? name.toList).isSome then some .positionalOnly
    else if seen.contains name then some (.duplicate name)
    else orderError? (name :: seen) rest

/-- What a parameter takes, in words. -/
def annotationOf (p : Parameter) : String :=
  if p.isList then
    "collections.abc.Iterable["
      ++ (match p.valueType with
        | .any => "typing.Any"
        | t => t.label) ++ "]"
  else p.valueType.label

/-- The argument for the row callback of a kind, if there is one. -/
def callbackArgument? : StatementKind → Option Argument
  | .query => some ⟨callbackName, some "collections.abc.Callable[[typing.Any], None]"⟩
  | .returning => some ⟨callbackName, some "collections.abc.Callable[[typing.Any], ~ResultT]"⟩
  | .execute | .batch => none

/-- What operations of a kind give back, in words. -/
def resultOf : StatementKind → String
  | .query | .batch => "None"
  | .execute => "int"
  | .returning => "Any"

/-- The signature of the operation for a statement. -/
def ofStatement (s : Statement) : Except SignatureError Signature :=
  match s.parameterNames.findSome? (nameError? s) with
  | some e => .error e
  | none =>
    match orderError? [connectionName] s.parameterNames with
    | some e => .error e
    | none =>
      .ok {
        arguments := ⟨connectionName, none⟩
          :: s.parameters.map (fun p => ⟨p.name, some (annotationOf p)⟩)
          ++ (callbackArgument? s.kind).toList
        result := resultOf s.kind }

/-- An argument with its annotation. -/
def argumentText (a : Argument) : String :=
  match a.annotation with
  | some annotation => a.name ++ ": " ++ annotation
  | none => a.name

/-- The signature in descriptions. -/
def describe (g : Signature) : String :=
  "(" ++ String.intercalate ", " (g.arguments.map argumentText) ++ ") -> " ++ g.result

end Signature

end AnnotatedSql
