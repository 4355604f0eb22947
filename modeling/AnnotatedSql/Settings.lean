import AnnotatedSql.Failure.Basic
import AnnotatedSql.Query.Placeholder
import AnnotatedSql.Statement.Resolution
import AnnotatedSql.Value.Equality

/-!
# Settings

How annotated SQL text is compiled and how the operations made from it behave. Settings are
made from named values, which are checked, and changed by making them again with some of the
values replaced.
-/

namespace AnnotatedSql

/-- What to do about a block whose header cannot be read. -/
inductive SyntaxPolicy where
  /-- Stop with its error. -/
  | abort
  /-- Log it and go on with the next. -/
  | skip
  deriving DecidableEq, Repr

namespace SyntaxPolicy

/-- The name of the policy in settings. -/
def label : SyntaxPolicy → String
  | abort => "abort"
  | skip => "skip"

/-- The policy of a name. -/
def ofLabel? (s : String) : Option SyntaxPolicy :=
  [abort, skip].find? fun p => p.label == s

end SyntaxPolicy

/-- What is wrong with values for settings. -/
inductive Misconfiguration where
  /-- The terminator is blank. -/
  | blankTerminator
  /-- The terminator is neither text nor bytes. -/
  | terminatorType (type : String)
  /-- No policy for unused parameters. -/
  | unusedPolicy (value : Value)
  /-- No policy for syntax errors. -/
  | syntaxPolicy (value : Value)
  /-- The value of a policy has no hash code, by which policies are looked up. -/
  | unhashablePolicy (type : String)
  /-- No placeholder style. -/
  | style (value : Value)
  /-- Fields to replace that settings do not have. -/
  | unknownFields (names : List String)
  /-- A field to set that settings do not have. -/
  | unexpectedField (name : String)
  /-- A field called like the settings themselves in making or replacing them. -/
  | ownName (method : String)

/-- The failure of a value that is no placeholder style. -/
def PlaceholderStyle.invalid (value : Value) : Failure :=
  .saying (Failure.described value) fun text =>
    .plain .value (text ++ " is not a valid PlaceholderStyle")

/-- The style that a value names. -/
def PlaceholderStyle.ofValue? : Value → Option PlaceholderStyle
  | .text s => ofLabel? s
  | _ => none

/-- The failure that the misconfiguration is raised as. -/
def Misconfiguration.failure : Misconfiguration → Failure
  | blankTerminator =>
    .ofLibrary .improperConfiguration
      "terminator must contain at least one non-whitespace character" {} none
  | terminatorType type =>
    .plain .attributeAccess ("'" ++ type ++ "' object has no attribute 'strip'")
  | unusedPolicy value =>
    .saying (Failure.described value) fun text =>
      .ofLibrary .improperConfiguration
        ("unused_parameters must be one of ['error', 'ignore', 'warn'], got " ++ text) {} none
  | syntaxPolicy value =>
    .saying (Failure.described value) fun text =>
      .ofLibrary .improperConfiguration
        ("on_syntax_error must be one of ['abort', 'skip'], got " ++ text) {} none
  | unhashablePolicy type => .plain .type ("unhashable type: '" ++ type ++ "'")
  | style value =>
    .saying (Failure.described value) fun text =>
      .ofLibrary .improperConfiguration ("Unsupported placeholder style: " ++ text) {}
        (some (PlaceholderStyle.invalid value))
  | unknownFields names =>
    .ofLibrary .improperConfiguration
      ("Unknown CompilerConfig fields: " ++ String.intercalate ", " names) {} none
  | unexpectedField name =>
    .plain .type ("CompilerConfig.__init__() got an unexpected keyword argument '" ++ name ++ "'")
  | ownName method =>
    .plain .type ("CompilerConfig." ++ method ++ "() got multiple values for argument 'self'")

/-- How text is compiled and operations behave. -/
structure Settings where
  /-- What the line that ends every statement holds, without blanks around it. -/
  terminator : Terminator
  /-- How placeholders are written; none leaves it to the adapter. -/
  style : Option PlaceholderStyle
  /-- What to do about declared parameters that are not used. -/
  unused : UnusedPolicy
  /-- What to do about blocks whose header cannot be read. -/
  onSyntaxError : SyntaxPolicy
  /-- Arguments are checked against declared types when this counts as true. -/
  checkTypes : Value

namespace Settings

/-- The names of the fields, in alphabetical order. -/
def fieldNames : List String :=
  ["check_types", "on_syntax_error", "placeholder_style", "terminator", "unused_parameters"]

/-- The settings where nothing else is said. -/
def standard : Settings :=
  { terminator := .standard
    style := none
    unused := .error
    onSyntaxError := .abort
    checkTypes := .bool false }

/-- The fields of settings with their values, in alphabetical order. -/
def fields (s : Settings) : List (String × Value) :=
  [("check_types", s.checkTypes),
    ("on_syntax_error", .text s.onSyntaxError.label),
    ("placeholder_style", .ofText? (s.style.map PlaceholderStyle.label)),
    ("terminator", s.terminator.value),
    ("unused_parameters", .text s.unused.label)]

/-- A terminator without the blanks around it, unless nothing is left then. -/
def terminatorOf (value : Value) : Except Misconfiguration Terminator :=
  match Terminator.ofValue? value with
  | none => .error (.terminatorType value.typeName)
  | some terminator =>
    if terminator.strip.isEmpty then .error .blankTerminator else .ok terminator.strip

/-- The policy that a value names. -/
def policyOf {α : Type} (ofLabel? : String → Option α) (wrong : Value → Misconfiguration)
    (value : Value) : Except Misconfiguration α :=
  match value.hashCode with
  | .error type => .error (.unhashablePolicy type)
  | .ok _ =>
    match value with
    | .text s =>
      match ofLabel? s with
      | some policy => .ok policy
      | none => .error (wrong value)
    | _ => .error (wrong value)

/-- The placeholder style that a value names, if it is not the value none. -/
def styleOf : Value → Except Misconfiguration (Option PlaceholderStyle)
  | .none => .ok none
  | value =>
    match PlaceholderStyle.ofValue? value with
    | some style => .ok (some style)
    | none => .error (.style value)

/-- The settings with the given values in place of some fields. All fields are checked. -/
def withFields (s : Settings) (changes : List (String × Value)) :
    Except Misconfiguration Settings := do
  let value (name : String) : Value := ((changes.lookup name).or (s.fields.lookup name)).getD .none
  let terminator ← terminatorOf (value "terminator")
  let unused ← policyOf UnusedPolicy.ofLabel? .unusedPolicy (value "unused_parameters")
  let onSyntaxError ← policyOf SyntaxPolicy.ofLabel? .syntaxPolicy (value "on_syntax_error")
  let style ← styleOf (value "placeholder_style")
  pure { terminator, style, unused, onSyntaxError, checkTypes := value "check_types" }

/-- The names of some values that are no fields. -/
def unknownNames (values : List (String × Value)) : List String :=
  (values.map Prod.fst).filter fun name => !fieldNames.contains name

/-- The name that the settings themselves have among the values they are made from. -/
def ownName : String := "self"

/-- The settings of named values; a field without a value has its standard one. -/
def make (values : List (String × Value)) : Except Misconfiguration Settings :=
  match unknownNames values with
  | name :: _ => .error (if name = ownName then .ownName "__init__" else .unexpectedField name)
  | [] => standard.withFields values

/-- The settings with some of their fields replaced. -/
def replace (s : Settings) (changes : List (String × Value)) : Except Misconfiguration Settings :=
  match unknownNames changes with
  | [] => s.withFields changes
  | names =>
    .error (if names.contains ownName then .ownName "replace"
      else .unknownFields (names.mergeSort fun a b => decide (a ≤ b)))

/-- Settings made by replacing some fields are equal to those before. A field that was kept has
the very same value, which is equal to itself unless it is not a number. -/
def unchangedBy (s : Settings) (changes : List (String × Value)) (later : Settings) : Bool :=
  (s.fields.zip later.fields).all fun ((name, before), (_, after)) =>
    if (changes.lookup name).isSome then after.equal before else before.equalsItself

/-- The values by which settings are compared. -/
def key (s : Settings) : Value :=
  .tuple (s.fields.map Prod.snd)

/-- The settings in descriptions. -/
def describe (s : Settings) : String :=
  "CompilerConfig(check_types=" ++ s.checkTypes.describe
    ++ ", on_syntax_error=" ++ Text.quoted s.onSyntaxError.label
    ++ ", placeholder_style="
    ++ (match s.style with
      | some style => style.describe
      | none => "None")
    ++ ", terminator=" ++ s.terminator.describe
    ++ ", unused_parameters=" ++ Text.quoted s.unused.label ++ ")"

end Settings

end AnnotatedSql
