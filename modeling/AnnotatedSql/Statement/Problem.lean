import AnnotatedSql.Failure.Kind
import AnnotatedSql.Statement.Multiplicity
import AnnotatedSql.Statement.Terminator
import AnnotatedSql.Text.Quoted

/-!
# Problems with statements

What can be wrong with annotated SQL text before any of it runs. Every problem has its wording
and its kind; the error adds the statement and the place.
-/

namespace AnnotatedSql

/-- What is wrong with annotated SQL text. -/
inductive Problem where
  /-- Text follows the last terminator line. -/
  | unterminated (terminator : Terminator)
  /-- A line that is no comment stands before the name header. -/
  | textBeforeHeader (line : String)
  /-- A declaration stands before the name header. -/
  | declarationBeforeHeader
  /-- No line is a name header. -/
  | missingHeader
  /-- The name header is not a name and a selector. -/
  | malformedHeader (line : String)
  /-- A second name header. -/
  | secondHeader
  /-- A parameter line that is no declaration. -/
  | malformedDeclaration (line : String)
  /-- A list declaration with nothing between its brackets. -/
  | missingElementType (line : String)
  /-- A parameter is declared again. -/
  | repeatedDeclaration (name : String)
  /-- Nothing follows the header. -/
  | emptyBody
  /-- The name belongs to an earlier statement of the same text. -/
  | nameTaken (location : String)
  /-- The name belongs to another operation of the container. -/
  | operationTaken (name : String)
  /-- The name means something else on a container. -/
  | clashingName (name : String)
  /-- A batch statement has a parameter. -/
  | batchParameter (name : String)
  /-- A name is used with both sigils. -/
  | mixedUse (name : String)
  /-- A marker names no declared parameter. -/
  | undeclared (multiplicity : Multiplicity) (name : String)
  /-- A marker's sigil contradicts the declaration. -/
  | contradiction (name : String) (declared used : Multiplicity)
  /-- A declared parameter has no marker. -/
  | unusedParameter (name : String)
  /-- A parameter is called like one of the arguments every operation has. -/
  | reservedParameter (name : String)
  deriving DecidableEq, Repr

namespace Problem

open Text (quoted)

/-- The wording of a problem. -/
def message : Problem → String
  | unterminated terminator =>
    "Statement is not terminated by a " ++ terminator.describe ++ " line"
  | textBeforeHeader line => "Expected '-- name:' header, found SQL text: " ++ quoted line
  | declarationBeforeHeader => "The '-- name:' header must come before any other directive"
  | missingHeader => "Statement block has no '-- name:' header"
  | malformedHeader line =>
    "Malformed name header or unknown selector (expected one of ?, !, &, ->): " ++ quoted line
  | secondHeader => "A statement block may only have one '-- name:' header"
  | malformedDeclaration line => "Malformed parameter declaration: " ++ quoted line
  | missingElementType line => "Missing list element type: " ++ quoted line
  | repeatedDeclaration name => "Parameter " ++ quoted name ++ " is declared more than once"
  | emptyBody => "Statement has no SQL body"
  | nameTaken location => "Statement name is already used at " ++ location
  | operationTaken name => "An operation named " ++ quoted name ++ " is already defined"
  | clashingName name =>
    "Operation name " ++ quoted name ++ " clashes with an attribute of SQLOperations"
  | batchParameter name => "Batch statements cannot take parameters, found " ++ quoted name
  | mixedUse name =>
    "Parameter " ++ quoted name ++ " is used both as ':" ++ name ++ "' and '#" ++ name ++ "'"
  | undeclared multiplicity name =>
    "Parameter '" ++ multiplicity.sigil.toString ++ name
      ++ "' is not declared by a '-- param:' directive"
  | contradiction name declared used =>
    "Parameter " ++ quoted name ++ " is declared as " ++ declared.phrase ++ " but used as '"
      ++ used.sigil.toString ++ name ++ "'"
  | unusedParameter name => "Parameter " ++ quoted name ++ " is declared but never used"
  | reservedParameter name =>
    "Parameter name " ++ quoted name ++ " is reserved for the generated operation"

/-- The kind of error a problem makes. -/
def kind : Problem → ErrorKind
  | unterminated _ => .unterminatedStatement
  | textBeforeHeader _ | declarationBeforeHeader | missingHeader | malformedHeader _
  | secondHeader | malformedDeclaration _ | missingElementType _ | repeatedDeclaration _
  | emptyBody => .statementSyntax
  | nameTaken _ | operationTaken _ => .duplicateName
  | clashingName _ | reservedParameter _ => .statementCompile
  | batchParameter _ => .kindMismatch
  | mixedUse _ | contradiction .. => .mixedMultiplicity
  | undeclared .. => .unboundParameter
  | unusedParameter _ => .unusedParameter

end Problem

/-- A message with the statement and the place it is about, as far as they are known. -/
def located (message : String) (statement location : Option String) : String :=
  let named := match statement with
    | some s => if s = "" then message else message ++ " (statement: " ++ s ++ ")"
    | none => message
  match location with
  | some l => if l = "" then named else named ++ " at " ++ l
  | none => named

/-- A problem with the statement and the place it was found at, as far as they are known. -/
structure CompileError where
  /-- What is wrong. -/
  problem : Problem
  /-- The name of the statement. -/
  statement : Option String
  /-- The source and the line. -/
  location : Option String
  deriving DecidableEq, Repr

namespace CompileError

/-- The wording of the problem with the statement and the place. -/
def message (e : CompileError) : String :=
  located e.problem.message e.statement e.location

/-- The kind of the error. -/
def kind (e : CompileError) : ErrorKind :=
  e.problem.kind

end CompileError

end AnnotatedSql
