import AnnotatedSql.Failure.Basic
import AnnotatedSql.Log.Level
import AnnotatedSql.Log.Moment

/-!
# Log records

What is logged: a message, the logger and the level, and values with keys beside the message. A
message may be a template with places for arguments: `%s` shows an argument, `%d` shows it as a
whole number, and `%%` stands for a percent sign.
-/

namespace AnnotatedSql.Log

/-- The name of the logger above all others of the library. -/
def rootName : String := "sqlinclude"

/-- A logged event. -/
structure Record where
  /-- The logger it was sent to. -/
  logger : String
  /-- How important it is. -/
  level : Level
  /-- The message, with places for the arguments if there are any. -/
  template : String
  /-- The arguments. -/
  arguments : List Value := []
  /-- Values with keys beside the message: a dictionary or pairs, or what counts as false. -/
  fields : Value := .none
  /-- The failure it is about. -/
  failure : Option Failure := none
  /-- The correlation id it carries. -/
  correlation : Value := .none
  /-- When it was made. -/
  created : Moment := .epoch

/-- A number for `%d`: a whole number, or a float without its fraction. -/
def wholeNumber (v : Value) : Except Failure Int :=
  match v with
  | .bool b => .ok (if b then 1 else 0)
  | .int n => .ok n
  | .float (.finite negative m) => .ok (if negative then -(m.floor : Int) else m.floor)
  | .float .nan => .error (.plain .value "cannot convert float NaN to integer")
  | .float (.infinite _) =>
    .error (.plain .overflow "cannot convert float infinity to integer")
  | v =>
    .error (.plain .type ("%d format: a real number is required, not " ++ v.typeName))

/-- How an argument is shown at a place for it. -/
def place (position : Nat) (c : Char) (argument : Value) : Except Failure String :=
  if c = 's' then Failure.shown argument
  else if c = 'd' then (wholeNumber argument).bind fun n => Failure.shown (.int n)
  else
    let shown := if 31 ≤ c.toNat && c.toNat ≤ 126 then c else '?'
    .error (.plain .value ("unsupported format character '" ++ shown.toString ++ "' (0x"
      ++ String.ofList (Nat.toDigits 16 c.toNat) ++ ") at index " ++ toString position))

/-- A template with its arguments filled in, and the arguments that are left. The position of a
place counts characters. -/
def fill (position : Nat) : List Char → List Value → Except Failure (List Char × List Value)
  | [], arguments => .ok ([], arguments)
  | ['%'], _ => .error (.plain .value "incomplete format")
  | '%' :: '%' :: rest, arguments =>
    (fill (position + 2) rest arguments).map fun (text, left) => ('%' :: text, left)
  | '%' :: _ :: _, [] => .error (.plain .type "not enough arguments for format string")
  | '%' :: c :: rest, argument :: others =>
    match place (position + 1) c argument with
    | .error e => .error e
    | .ok shown =>
      (fill (position + 2) rest others).map fun (text, left) => (shown.toList ++ text, left)
  | c :: rest, arguments =>
    (fill (position + 1) rest arguments).map fun (text, left) => (c :: text, left)

/-- A dictionary that is the only argument need not be used. -/
def mayBeLeft : List Value → Bool
  | [.mapping entries] => !entries.isEmpty
  | _ => false

/-- The message of a record. Without arguments the template is the message. -/
def Record.message (record : Record) : Except Failure String :=
  match record.arguments with
  | [] => .ok record.template
  | arguments =>
    match fill 0 record.template.toList arguments with
    | .error e => .error e
    | .ok (text, left) =>
      if left.isEmpty || mayBeLeft arguments then .ok (String.ofList text)
      else .error (.plain .type "not all arguments converted during string formatting")

/-- The key and the value that an element of pairs is, or why it is none. Whatever has a hash code
may be a key. -/
def pairOf (index : Nat) (element : Value) : Except Failure (Value × Value) :=
  let subject := "dictionary update sequence element #" ++ toString index
  match element.elements? with
  | none => .error (.plain .type ("cannot convert " ++ subject ++ " to a sequence"))
  | some [key, value] =>
    match key.hashCode with
    | .error type => .error (.plain .type ("unhashable type: '" ++ type ++ "'"))
    | .ok _ => .ok (key, value)
  | some parts =>
    .error (.plain .value (subject ++ " has length " ++ toString parts.length
      ++ "; 2 is required"))

/-- Entries with one more in front. Of the entries with equal keys the first gives the key and the
place, the last the value. -/
def addInFront (key value : Value) (later : List (Value × Value)) : List (Value × Value) :=
  match later.find? fun e => key.equal e.1 with
  | none => (key, value) :: later
  | some (_, last) => (key, last) :: later.filter fun e => !key.equal e.1

/-- The keys and values of pairs that follow so many others. -/
def pairsFrom (index : Nat) : List Value → Except Failure (List (Value × Value))
  | [] => .ok []
  | element :: rest =>
    match pairOf index element with
    | .error e => .error e
    | .ok (key, value) => (pairsFrom (index + 1) rest).map (addInFront key value)

/-- The values beside the message with their keys, in order. -/
def Record.entries (record : Record) : Except Failure (List (Value × Value)) :=
  match record.fields with
  | .mapping entries => .ok (entries.map fun (name, value) => (.text name, value))
  | v =>
    if v.isTrue then
      match v.elements? with
      | none => .error (.plain .type ("'" ++ v.typeName ++ "' object is not iterable"))
      | some elements => pairsFrom 0 elements
    else .ok []

end AnnotatedSql.Log
