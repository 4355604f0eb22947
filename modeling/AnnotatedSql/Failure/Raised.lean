import AnnotatedSql.Failure.Basic

/-!
# Failures from arguments

Drivers and callbacks raise failures of any kind from arguments of their choice, by position or
by name. The library's kinds take the arguments that their facts need, and make their text of
them; the general ones take any number of texts, the first of which is the main one.
-/

namespace AnnotatedSql

/-- The arguments that failures of a kind are raised with: their names in order, with the value
of those that may be left out. The failure itself comes before them. -/
structure RaiseArguments where
  /-- The name of the kind that introduces them. -/
  owner : String
  /-- The names, and the values for those that are left out. -/
  parameters : List (String × Option Value)

namespace RaiseArguments

/-- The name that the failure itself has among the arguments. -/
def ownName : String := "self"

/-- The start of a message about the arguments of a kind. -/
def subjectOf (owner : String) : String :=
  owner ++ ".__init__()"

/-- An argument by name is not among those of a kind. -/
def unexpected (owner name : String) : String :=
  subjectOf owner ++ " got an unexpected keyword argument '" ++ name ++ "'"

/-- An argument by name is given by position too. -/
def repeated (owner name : String) : String :=
  subjectOf owner ++ " got multiple values for argument '" ++ name ++ "'"

/-- The start of a message about the arguments. -/
def subject (r : RaiseArguments) : String :=
  subjectOf r.owner

/-- What is wrong with arguments by name, the first of them first. -/
def namedFault? (r : RaiseArguments) (positional : Nat) :
    List (String × Value) → Option String
  | [] => none
  | (name, _) :: rest =>
    match (ownName :: r.parameters.map Prod.fst).findIdx? (· == name) with
    | none => some (unexpected r.owner name)
    | some i =>
      if i ≤ positional then some (repeated r.owner name) else r.namedFault? positional rest

/-- Some names in words. -/
def enumerate : List String → String
  | [] => ""
  | [a] => "'" ++ a ++ "'"
  | [a, b] => "'" ++ a ++ "' and '" ++ b ++ "'"
  | names =>
    String.intercalate ", " (names.dropLast.map fun n => "'" ++ n ++ "'") ++ ", and '"
      ++ names.getLast?.getD "" ++ "'"

/-- What is wrong with the number of arguments by position. The failure itself counts as one. -/
def countFault? (r : RaiseArguments) (positional : Nat) : Option String :=
  let most := r.parameters.length + 1
  let least := (r.parameters.filter fun p => p.2.isNone).length + 1
  if positional < most then none
  else
    let range := if least = most then toString most
      else "from " ++ toString least ++ " to " ++ toString most
    let noun := if least = most && most = 1 then " positional argument but "
      else " positional arguments but "
    some (r.subject ++ " takes " ++ range ++ noun ++ toString (positional + 1) ++ " were given")

/-- The values of the arguments, or what is wrong with them. -/
def bind (r : RaiseArguments) (positional : List Value) (named : List (String × Value)) :
    Except String (List (String × Value)) :=
  match (r.namedFault? positional.length named).or (r.countFault? positional.length) with
  | some fault => .error fault
  | none =>
    let given := (r.parameters.map Prod.fst).zip positional ++ named
    let missing := (r.parameters.filter fun p => p.2.isNone && (given.lookup p.1).isNone).map
      Prod.fst
    if missing.isEmpty then
      .ok (r.parameters.map fun (name, standard) =>
        (name, ((given.lookup name).or standard).getD .none))
    else
      let noun := if missing.length = 1 then " required positional argument: "
        else " required positional arguments: "
      .error (r.subject ++ " missing " ++ toString missing.length ++ noun ++ enumerate missing)

/-- The arguments of a kind of the library that needs certain facts. -/
def ofKind? (kind : ErrorKind) : Option RaiseArguments :=
  if kind.isBelow .statementCompile then
    some ⟨"StatementCompileError",
      [("message", none), ("statement", some .none), ("location", some .none)]⟩
  else if kind.isBelow .noRows then some ⟨"NoRowsError", [("statement", none)]⟩
  else if kind.isBelow .rowCallback then
    some ⟨"RowCallbackError",
      [("statement", none), ("row_number", none), ("error", some .none)]⟩
  else if kind.isBelow .sqlFileNotFound then
    some ⟨"SQLFileNotFoundError", [("name", none), ("path", some .none)]⟩
  else if kind.isBelow .sqlFileParse then
    some ⟨"SQLFileParseError", [("name", none), ("path", none), ("original_error", none)]⟩
  else none

end RaiseArguments

namespace Failure

/-- A failure of the library from texts: its own text is the one given by name or else the first
of the others. What counts as false is left out. -/
def ofTexts (kind : ErrorKind) (arguments : List Value) (detail : Value) (facts : Facts) :
    Except Failure Failure := do
  let shownTexts ← (arguments.filter Value.isTrue).mapM shown
  let texts := shownTexts.map Value.text
  if detail.isTrue then pure { kind, arguments := texts, detail := some detail, facts }
  else
    match texts with
    | first :: rest => pure { kind, arguments := rest, detail := some first, facts }
    | [] => pure { kind, arguments := [], detail := some detail, facts }

/-- A message that names a statement and a place where these are given. -/
def locatedText (message statement location : Value) : Except Failure Value := do
  let named ←
    if statement.isTrue then do
      pure (Value.text ((← shown message) ++ " (statement: " ++ (← shown statement) ++ ")"))
    else pure message
  if location.isTrue then pure (.text ((← shown named) ++ " at " ++ (← shown location)))
  else pure named

/-- A failure of the library from the facts it needs. -/
def ofFacts (kind : ErrorKind) (given : List (String × Value)) : Except Failure Failure :=
  let value (name : String) : Value := (given.lookup name).getD .none
  let statement := value "statement"
  if kind.isBelow .statementCompile then do
    let detail ← locatedText (value "message") statement (value "location")
    ofTexts kind [] detail { statement := some statement, location := some (value "location") }
  else if kind.isBelow .noRows then do
    ofTexts kind [.text ("Statement " ++ (← described statement) ++ " returned no rows")] (.text "")
      { statement := some statement }
  else if kind.isBelow .rowCallback then do
    let message := "Row callback of " ++ (← described statement) ++ " failed on row "
      ++ (← shown (value "row_number"))
    let full ← match value "error" with
      | .none => pure message
      | e => do pure (message ++ ": " ++ (← shown e))
    ofTexts kind [.text full] (.text "")
      { statement := some statement, rowNumber := some (value "row_number") }
  else do
    let name := value "name"
    let path := value "path"
    let message ←
      if kind.isBelow .sqlFileParse then do
        pure ("Failed to read SQL file '" ++ (← shown name) ++ "' at " ++ (← shown path) ++ ": "
          ++ (← shown (value "original_error")))
      else if path.isTrue then do
        pure ("SQL file '" ++ (← shown name) ++ "' not found at path: " ++ (← shown path))
      else do pure ("SQL file '" ++ (← shown name) ++ "' not found")
    ofTexts kind [.text message] (.text "") { name := some name, path := some path }

/-- The kinds of the operating system's failures by their numbers. -/
def systemKinds : List (Int × ErrorKind) :=
  [(1, .permission), (2, .fileNotFound), (3, .processLookup), (4, .interrupted),
    (10, .childProcess), (11, .blocking), (13, .permission), (17, .fileExists),
    (20, .notADirectory), (21, .isADirectory), (32, .brokenPipe), (103, .connectionAborted),
    (104, .connectionReset), (108, .brokenPipe), (110, .timeout), (111, .connectionRefused),
    (114, .blocking), (115, .blocking)]

/-- The kind of a failure of the operating system: the general one gives way to that of the
number. -/
def systemKind (kind : ErrorKind) (number : Value) : ErrorKind :=
  if kind = .system then (number.integer?.bind fun n => systemKinds.lookup n).getD kind else kind

/-- What is wrong with a number that says how much was written before a failure. -/
def countFault? : Value → Option Failure
  | .float _ => some (plain .type "'float' object cannot be interpreted as an integer")
  | v =>
    if v.fitsWord then none
    else some (plain .value "cannot fit 'int' into an index-sized integer")

/-- A failure of the operating system from two to five arguments: after the number and the text
may come a file and, as the fifth, another one. The files are kept apart from the arguments. With
a kind that tells how much was written, a number stands for that instead of the file. -/
def ofSystem (kind : ErrorKind) (number text : Value) (others : List Value) :
    Except Failure Failure :=
  let actual := systemKind kind number
  let whole : Failure := { kind := actual, arguments := number :: text :: others }
  match others with
  | [] | .none :: _ => .ok whole
  | file :: rest =>
    if actual = .blocking && file.isNumber then
      match countFault? file with
      | some fault => .error fault
      | none => .ok whole
    else
      let other := match rest with
        | [_, .none] => []
        | [_, other] => [other]
        | _ => []
      .ok { whole with arguments := [number, text], files := file :: other }

/-- What is wrong with the arguments of a decoding failure, the first of them first: an encoding,
the bytes, two positions and a reason. -/
def decodeFault? (encoding bytes first last reason : Value) : Option Failure :=
  textFault? 1 encoding <|> positionFault? first <|> positionFault? last <|> textFault? 5 reason
    <|> bytesFault? bytes
where
  textFault? (place : Nat) : Value → Option Failure
    | .text _ => none
    | .none => some (plain .type ("argument " ++ toString place ++ " must be str, not None"))
    | v => some (plain .type ("argument " ++ toString place ++ " must be str, not " ++ v.typeName))
  positionFault? (v : Value) : Option Failure :=
    match v.integer? with
    | none =>
      some (plain .type ("'" ++ v.typeName ++ "' object cannot be interpreted as an integer"))
    | some _ =>
      if v.fitsWord then none
      else some (plain .overflow "Python int too large to convert to C ssize_t")
  bytesFault? : Value → Option Failure
    | .bytes _ => none
    | v => some (plain .type ("a bytes-like object is required, not '" ++ v.typeName ++ "'"))

/-- A failure to find an attribute, from arguments and, by name, the attribute's name and the
object that lacks it. -/
def ofAttribute (kind : ErrorKind) (positional : List Value) (named : List (String × Value)) :
    Except Failure Failure :=
  if 2 < named.length then
    .error (plain .type (kind.label ++ "() takes at most 2 keyword arguments ("
      ++ toString named.length ++ " given)"))
  else
    match named.find? fun e => e.1 != "name" && e.1 != "obj" with
    | some (name, _) =>
      .error (plain .type ("'" ++ name ++ "' is an invalid keyword argument for " ++ kind.label
        ++ "()"))
    | none =>
      .ok { kind, arguments := positional
            facts := { name := some ((named.lookup "name").getD .none) } }

/-- A failure that is none of the library's, or the failure that the arguments do not fit its
kind. -/
def ofOutside (kind : ErrorKind) (positional : List Value) (named : List (String × Value)) :
    Except Failure Failure :=
  if kind.isBelow .attributeAccess then ofAttribute kind positional named
  else if !named.isEmpty then
    .error (plain .type (kind.label ++ "() takes no keyword arguments"))
  else if kind.isBelow .unicodeDecode then
    match positional with
    | [encoding, bytes, first, last, reason] =>
      match decodeFault? encoding bytes first last reason with
      | some fault => .error fault
      | none => .ok { kind, arguments := positional }
    | _ =>
      .error (plain .type
        ("function takes exactly 5 arguments (" ++ toString positional.length ++ " given)"))
  else if kind.isBelow .system then
    match positional with
    | number :: text :: others =>
      if 3 < others.length then .ok { kind, arguments := positional }
      else ofSystem kind number text others
    | _ => .ok { kind, arguments := positional }
  else .ok { kind, arguments := positional }

/-- A failure of the library from any number of texts, by position, and its own text, by name. -/
def ofAnyTexts (kind : ErrorKind) (positional : List Value) (named : List (String × Value)) :
    Except Failure Failure :=
  match named.find? fun e => e.1 != "detail" with
  | some (name, _) =>
    let owner := ErrorKind.library.label
    .error (plain .type (if name = RaiseArguments.ownName then RaiseArguments.repeated owner name
      else RaiseArguments.unexpected owner name))
  | none => ofTexts kind positional ((named.lookup "detail").getD (.text "")) {}

/-- The failure of a kind raised from arguments, or the failure that the arguments do not fit
the kind. -/
def raised (kind : ErrorKind) (positional : List Value) (named : List (String × Value)) :
    Except Failure Failure :=
  if kind.isLibrary then
    match RaiseArguments.ofKind? kind with
    | some arguments =>
      match arguments.bind positional named with
      | .ok given => ofFacts kind given
      | .error fault => .error (plain .type fault)
    | none => ofAnyTexts kind positional named
  else ofOutside kind positional named

end Failure

end AnnotatedSql
