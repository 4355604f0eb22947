import AnnotatedSql.Statement.Multiplicity
import AnnotatedSql.Text.Blank
import AnnotatedSql.Text.CharSet
import AnnotatedSql.Text.Quoted

/-!
# Parameters

A parameter of a statement, with its place among the others. Its declared type names the values
it takes when it is one of the types known here; a type that is missing, left to inference or
unknown allows every value.
-/

namespace AnnotatedSql

open Text

/-- The values a declared type allows. -/
inductive ValueType where
  | int
  | float
  | bool
  | text
  | bytes
  | any
  deriving DecidableEq, Repr

namespace ValueType

/-- The name of the type in signatures. -/
def label : ValueType → String
  | int => "int"
  | float => "float"
  | bool => "bool"
  | text => "str"
  | bytes => "bytes"
  | any => "Any"

/-- The declared types that are known, as they are written. -/
def known : List (String × ValueType) :=
  [("i8", int), ("i16", int), ("i32", int), ("i64", int), ("isize", int),
    ("u8", int), ("u16", int), ("u32", int), ("u64", int), ("usize", int),
    ("int", int), ("integer", int),
    ("f32", float), ("f64", float), ("float", float), ("real", float),
    ("bool", bool), ("boolean", bool),
    ("str", text), ("&str", text), ("String", text), ("text", text),
    ("bytes", bytes), ("&[u8]", bytes), ("Vec<u8>", bytes), ("blob", bytes)]

/-- The type text that leaves the type to inference. -/
def inferred : String := "_"

/-- The values a declared type allows. The text is taken as written first and then in lower
case. -/
def ofDeclared : Option String → ValueType
  | none => any
  | some declared =>
    let cs := trim declared.toList
    match known.lookup (String.ofList cs) with
    | some t => t
    | none => (known.lookup (String.ofList (cs.map asciiLower))).getD any

end ValueType

/-- A parameter of a statement. -/
structure Parameter where
  /-- What it is called. -/
  name : String
  /-- Whether it stands for one value or a list. -/
  multiplicity : Multiplicity
  /-- Its place among the parameters, counted from zero. -/
  position : Int
  /-- Its type as declared; a parameter that is only used has none. -/
  declaredType : Option String
  /-- The body has a marker for it. -/
  referenced : Bool
  deriving DecidableEq, Repr

namespace Parameter

/-- The number of its placeholder in a statement whose parameters are all scalars. -/
def index (p : Parameter) : Int :=
  p.position + 1

/-- It stands for a list of values. -/
def isList (p : Parameter) : Bool :=
  p.multiplicity == .list

/-- No type was declared for it. -/
def isInferred (p : Parameter) : Bool :=
  p.declaredType == none || p.declaredType == some ValueType.inferred

/-- The values it takes. -/
def valueType (p : Parameter) : ValueType :=
  if p.declaredType == some ValueType.inferred then .any else .ofDeclared p.declaredType

/-- The parameter in descriptions. -/
def describe (p : Parameter) : String :=
  "ParameterDescriptor(" ++ quoted p.name ++ ", " ++ p.multiplicity.label ++ ", position="
    ++ toString p.position ++ ", declared_type="
    ++ (match p.declaredType with
      | none => "None"
      | some t => quoted t) ++ ")"

end Parameter

end AnnotatedSql
