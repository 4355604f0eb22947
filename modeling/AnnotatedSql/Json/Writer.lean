import AnnotatedSql.Decimal.Shortest
import AnnotatedSql.Text.Hex
import AnnotatedSql.Value.Display

/-!
# Values as JSON text

Values are written without any space. Bytes are written as text in base sixty-four, a float
that is no finite number as null, and a thing of which only its text is known as that text.
Keys are texts; another value has a text that stands for it as a key.
-/

namespace AnnotatedSql.Json

open Text

/-- JSON text writes a float without an exponent from a hundred-thousandth up to below ten to
the sixteenth; an exponent has a sign only when it is negative. -/
def floatLayout : Decimal.Layout :=
  ⟨-5, 15, false, 1⟩

/-- One character inside a JSON string. -/
def escape (c : Char) : List Char :=
  if c = '"' then ['\\', '"']
  else if c = '\\' then ['\\', '\\']
  else if c = '\n' then ['\\', 'n']
  else if c = '\r' then ['\\', 'r']
  else if c = '\t' then ['\\', 't']
  else if c = '\x08' then ['\\', 'b']
  else if c = '\x0c' then ['\\', 'f']
  else if c.toNat < 32 then '\\' :: 'u' :: hex 4 c.toNat
  else [c]

/-- A JSON string. -/
def writeText (s : String) : List Char :=
  '"' :: s.toList.flatMap escape ++ ['"']

/-- The digit of a value below sixty-four. -/
def base64Digit (n : Nat) : Char :=
  if n < 26 then Char.ofNat (65 + n)
  else if n < 52 then Char.ofNat (71 + n)
  else if n < 62 then Char.ofNat (n - 4)
  else if n = 62 then '+' else '/'

/-- Bytes in base sixty-four: four digits for three bytes, filled up with equals signs. -/
def base64 : List UInt8 → List Char
  | [] => []
  | [a] =>
    let n := a.toNat * 16
    [base64Digit (n / 64), base64Digit (n % 64), '=', '=']
  | [a, b] =>
    let n := (a.toNat * 256 + b.toNat) * 4
    [base64Digit (n / 4096), base64Digit (n / 64 % 64), base64Digit (n % 64), '=']
  | a :: b :: c :: rest =>
    let n := (a.toNat * 256 + b.toNat) * 256 + c.toNat
    base64Digit (n / 262144) :: base64Digit (n / 4096 % 64) :: base64Digit (n / 64 % 64)
      :: base64Digit (n % 64) :: base64 rest

/-- A JSON number for a double, or null where there is none. -/
def writeFloat : Decimal.Double → List Char
  | .finite negative magnitude => (floatLayout.number negative magnitude).toList
  | .nan | .infinite _ => ['n', 'u', 'l', 'l']

mutual

/-- A value as JSON text. -/
def write : Value → List Char
  | .none => ['n', 'u', 'l', 'l']
  | .bool b => if b then ['t', 'r', 'u', 'e'] else ['f', 'a', 'l', 's', 'e']
  | .int n => (toString n).toList
  | .float x => writeFloat x
  | .text s => writeText s
  | .bytes bs => '"' :: base64 bs ++ ['"']
  | .list items => '[' :: writeItems items ++ [']']
  | .tuple items => '[' :: writeItems items ++ [']']
  | .mapping entries => '\x7b' :: writeEntries entries ++ ['\x7d']
  | .object s => writeText s
  | .stream _ => writeText "<generator object>"
  | .connection => writeText "<Conn object>"
  | .callback _ => writeText "<Callback object>"

/-- Values with commas between them. -/
def writeItems : List Value → List Char
  | [] => []
  | v :: rest =>
    match rest with
    | [] => write v
    | _ :: _ => write v ++ ',' :: writeItems rest

/-- Keys and values with commas between the pairs. -/
def writeEntries : List (String × Value) → List Char
  | [] => []
  | (k, v) :: rest =>
    match rest with
    | [] => writeText k ++ ':' :: write v
    | _ :: _ => writeText k ++ ':' :: write v ++ ',' :: writeEntries rest

end

/-- The text that stands for a value as the key of an entry. Numbers and bytes are written as they
are elsewhere, but every float has a text; other values stand as in running text. -/
def keyText : Value → String
  | .float (.finite negative magnitude) => floatLayout.number negative magnitude
  | .bytes bs => String.ofList (base64 bs)
  | v => v.display

/-- A value as JSON text. -/
def encode (v : Value) : String :=
  String.ofList (write v)

end AnnotatedSql.Json
