import AnnotatedSql.Failure.Kind
import AnnotatedSql.Statement.Problem
import AnnotatedSql.Text.Blank
import AnnotatedSql.Value.Display

/-!
# Failures

What is raised when something goes wrong: its kind, the arguments it was raised with, and the
failure it was raised from. The library's own failures have a text of their own beside the
arguments, and say what they are about. Not every failure has a message: what it shows may be too
long to be shown. A failure that is to tell what such a one says gives way to the failure of making
the message.
-/

namespace AnnotatedSql

/-- What a failure of the library is about, as far as its kind says. A value that is known to be
missing is the value none. -/
structure Facts where
  /-- The statement. -/
  statement : Option Value := none
  /-- The source and the line. -/
  location : Option Value := none
  /-- The number of the row. -/
  rowNumber : Option Value := none
  /-- The name of the file. -/
  name : Option Value := none
  /-- The path of the file. -/
  path : Option Value := none

/-- Something that was raised. -/
structure Failure where
  /-- Its kind. -/
  kind : ErrorKind
  /-- The arguments it keeps. -/
  arguments : List Value
  /-- Its own text, if it is one of the library's. -/
  detail : Option Value := none
  /-- The files that a failure of the operating system is about, no more than two. -/
  files : List Value := []
  /-- What it is about. -/
  facts : Facts := {}
  /-- What it was raised from. -/
  cause : Option Failure := none

namespace Failure

open Value (describe display)

/-- The message of a failure of the operating system: its number, what it says, and the files it is
about. It has these with two to five arguments. -/
def systemMessage (arguments files : List Value) : Option String :=
  match arguments with
  | number :: text :: others =>
    if 3 < others.length then none
    else
      let about := match files with
        | [] => ""
        | files => ": " ++ String.intercalate " -> " (files.map describe)
      some ("[Errno " ++ display number ++ "] " ++ display text ++ about)
  | _ => none

/-- The values that the message of a failure of the operating system shows. -/
def systemValues (arguments files : List Value) : List Value :=
  match systemMessage arguments files, arguments with
  | some _, number :: text :: _ => number :: text :: files
  | _, _ => arguments

/-- The byte at a position before the end of the bytes. Before their start come eight bytes of ones
and, before those, their number in eight bytes with the lowest first. -/
def byteAt (bytes : List UInt8) (position : Int) : UInt8 :=
  if 0 ≤ position then bytes[position.toNat]?.getD 0
  else if -8 ≤ position then 0xFF
  else if position = -16 then UInt8.ofNat bytes.length
  else 0

/-- The byte or bytes of an encoded text that a decoding failure is about. -/
def decodeMessage : List Value → Option String
  | [.text encoding, .bytes bytes, first, last, .text reason] => do
    let first ← first.integer?
    let last ← last.integer?
    let place := if first < bytes.length && last = first + 1 then
        "byte 0x" ++ String.ofList (Text.hex 2 (byteAt bytes first).toNat) ++ " in position "
          ++ toString first
      else "bytes in position " ++ toString first ++ "-" ++ toString (last - 1)
    pure ("'" ++ encoding ++ "' codec can't decode " ++ place ++ ": " ++ reason)
  | _ => none

/-- The values that the message of a failure shows that has nothing but its arguments. -/
def plainValues (f : Failure) : List Value :=
  if f.kind.isBelow .system then systemValues f.arguments f.files
  else if f.kind = .unicodeDecode && (decodeMessage f.arguments).isSome then []
  else f.arguments

/-- The message of a failure that has nothing but its arguments: nothing, the only one as it is,
or all of them as a tuple. A missing key is described. -/
def plainMessage (f : Failure) : String :=
  let special :=
    if f.kind.isBelow .system then systemMessage f.arguments f.files
    else if f.kind = .unicodeDecode then decodeMessage f.arguments
    else none
  match special, f.arguments with
  | some message, _ => message
  | none, [] => ""
  | none, [a] => if f.kind = .key then Value.describe a else display a
  | none, as => Value.describe (.tuple as)

/-- The name of the type of the first value that is no text, with its place. -/
def firstNonText (place : Nat) : List Value → Option (Nat × String)
  | [] => none
  | .text _ :: rest => firstNonText (place + 1) rest
  | v :: _ => some (place, v.typeName)

/-- A failure from outside the library with a message. -/
def plain (kind : ErrorKind) (message : String) : Failure :=
  { kind := kind, arguments := [.text message] }

/-- A whole number that is to be shown is too long. -/
def unshowable : Failure :=
  plain .value ("Exceeds the limit (" ++ toString Value.longestNumber
    ++ " digits) for integer string conversion; use sys.set_int_max_str_digits() to increase the"
    ++ " limit")

/-- A value in running text, or the failure of showing it. -/
def shown (v : Value) : Except Failure String :=
  if v.isShowable then .ok (display v) else .error unshowable

/-- A value in a description, or the failure of showing it. -/
def described (v : Value) : Except Failure String :=
  if v.isShowable then .ok (Value.describe v) else .error unshowable

/-- The message of a failure that has one. A failure of the library puts its own text after its
arguments. -/
def message (f : Failure) : String :=
  match f.detail with
  | none => f.plainMessage
  | some detail => Text.strip (String.intercalate " " ((f.arguments ++ [detail]).map display))

/-- Why a failure has no message, if it has none: the texts of a failure of the library must be
texts, and what others show must not be too long. -/
def messageFault? (f : Failure) : Option Failure :=
  match f.detail with
  | none => if f.plainValues.all Value.isShowable then none else some unshowable
  | some detail =>
    (firstNonText 0 (f.arguments ++ [detail])).map fun (place, type) =>
      plain .type ("sequence item " ++ toString place ++ ": expected str instance, " ++ type
        ++ " found")

/-- The message of a failure, or the failure of making it. -/
def text (f : Failure) : Except Failure String :=
  match f.messageFault? with
  | none => .ok f.message
  | some fault => .error fault

/-- What a failure is reported as. One that has no message is reported as the failure of making
it. -/
def reported (f : Failure) : Failure :=
  f.messageFault?.getD f

/-- The failure in descriptions, if what it shows can be shown. -/
def describe (f : Failure) : String :=
  match f.detail with
  | some detail => if detail.isTrue then f.kind.label ++ " - " ++ display detail else f.kind.label
  | none =>
    match f.arguments with
    | [a] => f.kind.label ++ "(" ++ Value.describe a ++ ")"
    | as => f.kind.label ++ Value.describe (.tuple as)

/-- A failure of the library with its text. -/
def ofLibrary (kind : ErrorKind) (text : String) (facts : Facts) (cause : Option Failure) :
    Failure :=
  { kind := kind, arguments := [], detail := some (.text text), facts := facts, cause := cause }

/-- The failure of a problem with a statement. -/
def ofCompileError (e : CompileError) : Failure :=
  ofLibrary e.kind e.message
    { statement := some (.ofText? e.statement), location := some (.ofText? e.location) } none

/-- No row came from a statement that returns one. -/
def noRows (statement : String) : Failure :=
  ofLibrary .noRows ("Statement " ++ Text.quoted statement ++ " returned no rows")
    { statement := some (.text statement) } none

/-- The failure that a text goes into. Where making the text fails, that is the failure. -/
def saying (text : Except Failure String) (tell : String → Failure) : Failure :=
  match text with
  | .ok text => tell text
  | .error fault => fault

/-- A callback failed on a row. -/
def rowCallback (statement : String) (row : Nat) (error : Failure) : Failure :=
  saying error.text fun message =>
    ofLibrary .rowCallback
      ("Row callback of " ++ Text.quoted statement ++ " failed on row " ++ toString row ++ ": "
        ++ message)
      { statement := some (.text statement), rowNumber := some (.int row) } (some error)

/-- The driver failed. -/
def engine (error : Failure) : Failure :=
  saying error.text fun message =>
    ofLibrary .engine ("Database engine error: " ++ message) {} (some error)

/-- One of the kinds covers the failure. -/
def isAny (f : Failure) (kinds : List ErrorKind) : Bool :=
  kinds.any f.kind.isBelow

/-- What a failure becomes where failures of the given kinds are the driver's: those turn into
engine errors, but the library's own failures pass. -/
def underDriver (kinds : List ErrorKind) (f : Failure) : Failure :=
  if f.kind.isLibrary then f
  else if f.isAny kinds then engine f
  else f

end Failure

end AnnotatedSql
