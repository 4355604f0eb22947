import AnnotatedSql.Operation.Signature

/-!
# Arguments

Arguments are given by position or by name and are matched with the names of a signature. The
values of a statement's parameters are then checked: a list parameter takes something with
elements, which are read once, and where types are checked every value but none has the
declared type.
-/

namespace AnnotatedSql

/-- Why arguments do not match a signature. -/
inductive ArgumentError where
  /-- An argument is missing. -/
  | missing (name : String)
  /-- There are more arguments than names. -/
  | tooMany
  /-- An argument is given by position and by name. -/
  | repeated (name : String)
  /-- A name is not in the signature. -/
  | unexpected (name : String)
  deriving DecidableEq, Repr

namespace ArgumentError

/-- The wording of the error. -/
def message : ArgumentError → String
  | missing name => "missing a required argument: " ++ Text.quoted name
  | tooMany => "too many positional arguments"
  | repeated name => "multiple values for argument " ++ Text.quoted name
  | unexpected name => "got an unexpected keyword argument " ++ Text.quoted name

/-- The failure that the error is raised as. -/
def failure (e : ArgumentError) : Failure :=
  .plain .type e.message

end ArgumentError

namespace Arguments

/-- The values of the names that no argument was given to by position. -/
def bindNamed (named : List (String × Value)) :
    List String → Except ArgumentError (List (String × Value))
  | [] => .ok []
  | name :: rest =>
    match named.lookup name with
    | none => .error (.missing name)
    | some v => (bindNamed named rest).map ((name, v) :: ·)

/-- The values of names for arguments by position and by name. -/
def bindPositional (named : List (String × Value)) :
    List String → List Value → Except ArgumentError (List (String × Value))
  | names, [] => bindNamed named names
  | [], _ :: _ => .error .tooMany
  | name :: names, v :: positional =>
    if (named.lookup name).isSome then .error (.repeated name)
    else (bindPositional named names positional).map ((name, v) :: ·)

/-- Matches arguments with the names of a signature, in its order. -/
def bind (names : List String) (positional : List Value) (named : List (String × Value)) :
    Except ArgumentError (List (String × Value)) :=
  match bindPositional named names positional with
  | .error e => .error e
  | .ok values =>
    match named.find? fun e => !names.contains e.1 with
    | some (name, _) => .error (.unexpected name)
    | none => .ok values

end Arguments

/-- Why a value is not taken for a parameter. -/
inductive ValueError where
  /-- A list was expected. -/
  | noList (statement : String) (parameter : Parameter) (type : String)
  /-- Another type was declared. -/
  | wrongType (statement : String) (parameter : Parameter) (type : String)
  deriving DecidableEq, Repr

namespace ValueError

/-- The wording of the error. -/
def message : ValueError → String
  | noList statement p type =>
    "Parameter " ++ Text.quoted p.name ++ " of " ++ Text.quoted statement
      ++ " expects a list of values, got " ++ type
  | wrongType statement p type =>
    "Parameter " ++ Text.quoted p.name ++ " of " ++ Text.quoted statement ++ " is declared as "
      ++ Value.describeText? p.declaredType ++ ", got " ++ type

/-- The failure that the error is raised as. -/
def failure (e : ValueError) : Failure :=
  .ofLibrary .parameterType e.message {} none

end ValueError

namespace ValueType

/-- A value has the type. Truth values are also integers, and integers are taken for floats. -/
def accepts : ValueType → Value → Bool
  | any, _ => true
  | _, .none => true
  | int, .int _ | int, .bool _ => true
  | float, .float _ | float, .int _ | float, .bool _ => true
  | bool, .bool _ => true
  | text, .text _ => true
  | bytes, .bytes _ => true
  | _, _ => false

end ValueType

namespace Parameter

/-- The elements of a value given for a list; a text and bytes are values of their own. -/
def listElements? : Value → Option (List Value)
  | .text _ | .bytes _ => none
  | v => v.elements?

/-- The value to bind for a parameter, if the one given is taken. -/
def check (statement : String) (checkTypes : Bool) (p : Parameter) (v : Value) :
    Except ValueError Value :=
  let taken (w : Value) : Bool := !checkTypes || p.valueType.accepts w
  if p.isList then
    match listElements? v with
    | none => .error (.noList statement p v.typeName)
    | some elements =>
      match elements.find? fun w => !taken w with
      | some w => .error (.wrongType statement p w.typeName)
      | none => .ok (.list elements)
  else if taken v then .ok v
  else .error (.wrongType statement p v.typeName)

/-- The values to bind for parameters, in order. -/
def checkAll (statement : String) (checkTypes : Bool) (arguments : List (String × Value)) :
    List Parameter → Except ValueError (List (String × Value))
  | [] => .ok []
  | p :: rest =>
    match p.check statement checkTypes ((arguments.lookup p.name).getD .none) with
    | .error e => .error e
    | .ok v => (checkAll statement checkTypes arguments rest).map ((p.name, v) :: ·)

end Parameter

end AnnotatedSql
