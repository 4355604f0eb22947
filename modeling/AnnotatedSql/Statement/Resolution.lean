import AnnotatedSql.Statement.Basic
import AnnotatedSql.Statement.Header

/-!
# Resolving parameters

The markers of a body are matched with the declarations of its header. Where there are
declarations, these give the parameters and their order, and every marker must be declared;
where there are none, the parameters are the names of the markers in the order of first use.
A name is used with one sigil throughout, and a batch statement has no parameters at all.
-/

namespace AnnotatedSql

/-- What to do about a declared parameter without a marker. -/
inductive UnusedPolicy where
  /-- Refuse the statement. -/
  | error
  /-- Accept it and log a warning. -/
  | warn
  /-- Accept it. -/
  | ignore
  deriving DecidableEq, Repr

namespace UnusedPolicy

/-- The name of the policy in settings. -/
def label : UnusedPolicy → String
  | error => "error"
  | warn => "warn"
  | ignore => "ignore"

/-- The policy of a name. -/
def ofLabel? (s : String) : Option UnusedPolicy :=
  [error, warn, ignore].find? fun p => p.label == s

end UnusedPolicy

namespace Resolution

/-- The first marker of each name, in order. The first marker that repeats a name with the
other sigil is the error. -/
def firstUses (uses : List Marker) : List Marker → Except Problem (List Marker)
  | [] => .ok uses
  | m :: rest =>
    match uses.find? fun u => u.name == m.name with
    | none => firstUses (uses ++ [m]) rest
    | some u =>
      if u.multiplicity = m.multiplicity then firstUses uses rest else .error (.mixedUse m.name)

/-- The declaration of a name; the last one counts. -/
def declaration? (declarations : List Declaration) (name : String) : Option Declaration :=
  declarations.reverse.find? fun d => d.name == name

/-- What is wrong with the use of a marker under some declarations. -/
def misuse? (declarations : List Declaration) (use : Marker) : Option Problem :=
  match declaration? declarations use.name with
  | none => some (.undeclared use.multiplicity use.name)
  | some d =>
    if d.multiplicity = use.multiplicity then none
    else some (.contradiction use.name d.multiplicity use.multiplicity)

/-- The parameters of markers that are not declared. -/
def inferred (uses : List Marker) : List Parameter :=
  uses.mapIdx fun position m => ⟨m.name, m.multiplicity, position, none, true⟩

/-- The parameters of declarations. -/
def declared (uses : List Marker) (declarations : List Declaration) : List Parameter :=
  declarations.mapIdx fun position d =>
    ⟨d.name, d.multiplicity, position, some d.declaredType,
      uses.any fun u => u.name == d.name⟩

/-- The first of the parameters that is not used. -/
def unused? (parameters : List Parameter) : Option Parameter :=
  parameters.find? fun p => !p.referenced

/-- The parameters of a body with the given markers. -/
def matched (declarations : List Declaration) (markers : List Marker) (unused : UnusedPolicy) :
    Except Problem (List Parameter) :=
  match firstUses [] markers with
  | .error problem => .error problem
  | .ok uses =>
    if declarations.isEmpty then .ok (inferred uses)
    else match uses.findSome? (misuse? declarations) with
      | some problem => .error problem
      | none =>
        let found := declared uses declarations
        match unused, unused? found with
        | .error, some p => .error (.unusedParameter p.name)
        | _, _ => .ok found

/-- The parameters of a statement, or the first problem with them. A batch statement has none. -/
def parameters (kind : StatementKind) (declarations : List Declaration) (tokens : List Token)
    (unused : UnusedPolicy) : Except Problem (List Parameter) :=
  let markers := Token.markers tokens
  match kind, declarations.map Declaration.name ++ markers.map Marker.name with
  | .batch, offending :: _ => .error (.batchParameter offending)
  | _, _ => matched declarations markers unused

/-- The parameters of a statement whose body stands at a place. -/
def resolve (name : String) (kind : StatementKind) (declarations : List Declaration)
    (tokens : List Token) (unused : UnusedPolicy) (location : Option String) :
    Except CompileError (List Parameter) :=
  (parameters kind declarations tokens unused).mapError fun problem =>
    ⟨problem, some name, location⟩

/-- The parameters to warn about. -/
def unusedParameters (unused : UnusedPolicy) (parameters : List Parameter) : List Parameter :=
  if unused = .warn then parameters.filter fun p => !p.referenced else []

end Resolution

/-- The statement of a parsed header. -/
def Header.resolve (header : Header) (unused : UnusedPolicy) : Except CompileError Statement :=
  let tokens := Token.scan header.body
  (Resolution.resolve header.name header.kind header.declarations tokens unused
    (some header.bodyLocation)).map fun parameters =>
      { name := header.name
        kind := header.kind
        parameters := parameters
        tokens := tokens
        doc := header.doc
        block := some header.block }

end AnnotatedSql
