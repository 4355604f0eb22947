import AnnotatedSql.Text.CharSet
import AnnotatedSql.Text.Hex
import AnnotatedSql.Value.Basic

/-!
# Values from JSON text

Reading accepts JSON text and nothing else. A number without a point and an exponent is an
integer; another number is the nearest double. Numbers too great for a double, integers of too
many digits and values nested too deep are refused as soon as they are met. Of the entries with
the same key the last gives the value and the first the place.
-/

namespace AnnotatedSql.Json

open Text

/-- Why a text is not read. -/
inductive ReadFault where
  /-- It is no JSON text. -/
  | malformed
  /-- A number is too great or an integer too long. -/
  | outOfRange
  /-- Values are nested too deep. -/
  | tooDeep
  deriving DecidableEq, Repr

namespace ReadFault

/-- The name that the fault is reported under. -/
def label : ReadFault → String
  | malformed => "DecodeError"
  | outOfRange => "ValidationError"
  | tooDeep => "RecursionError"

/-- What the fault says, where that does not depend on the place in the text. -/
def message? : ReadFault → Option String
  | malformed | outOfRange => none
  | tooDeep => some "maximum recursion depth exceeded while deserializing an object"

end ReadFault

/-- How many characters an integer may have, with its sign. -/
def longestInteger : Nat := 4300

/-- How many lists and objects may be open at once. -/
def deepestNesting : Nat := 995

/-- The text without the white space of JSON in front. -/
def skipSpace (cs : List Char) : List Char :=
  cs.dropWhile fun c => c == ' ' || c == '\n' || c == '\r' || c == '\t'

/-- The code unit that four hexadecimal digits give, and what follows them. -/
def readUnit : List Char → Option (Nat × List Char)
  | a :: b :: c :: d :: rest => (ofHex? [a, b, c, d]).map fun n => (n, rest)
  | _ => none

/-- The character that follows an escape's letter u, and what follows it. A character outside
the first plane is a pair of escaped units. -/
def readUnicode (cs : List Char) : Option (Char × List Char) :=
  match readUnit cs with
  | none => none
  | some (high, rest) =>
    if 0xD800 ≤ high && high < 0xDC00 then
      match rest with
      | '\\' :: 'u' :: more =>
        match readUnit more with
        | some (low, rest) =>
          if 0xDC00 ≤ low && low < 0xE000 then
            some (Char.ofNat (0x10000 + (high - 0xD800) * 0x400 + (low - 0xDC00)), rest)
          else none
        | none => none
      | _ => none
    else if 0xDC00 ≤ high && high < 0xE000 then none
    else some (Char.ofNat high, rest)

/-- The character of an escape after its backslash, and what follows it. -/
def readEscape : List Char → Option (Char × List Char)
  | '"' :: rest => some ('"', rest)
  | '\\' :: rest => some ('\\', rest)
  | '/' :: rest => some ('/', rest)
  | 'b' :: rest => some ('\x08', rest)
  | 'f' :: rest => some ('\x0c', rest)
  | 'n' :: rest => some ('\n', rest)
  | 'r' :: rest => some ('\r', rest)
  | 't' :: rest => some ('\t', rest)
  | 'u' :: rest => readUnicode rest
  | _ => none

/-- The characters of a string after its opening quote, and what follows the closing one. The
fuel bounds the count of characters. -/
def readText : (fuel : Nat) → List Char → Option (List Char × List Char)
  | 0, _ => none
  | _ + 1, [] => none
  | fuel + 1, c :: rest =>
    if c = '"' then some ([], rest)
    else if c = '\\' then do
      let (d, rest) ← readEscape rest
      let (ds, rest) ← readText fuel rest
      pure (d :: ds, rest)
    else if c.toNat < 32 then none
    else do
      let (ds, rest) ← readText fuel rest
      pure (c :: ds, rest)

/-- Decimal digits as a number. -/
def digitsValue (digits : List Char) : Nat :=
  digits.foldl (fun n c => 10 * n + (c.toNat - 48)) 0

/-- The digits of a whole number without a leading zero, and what follows them. -/
def readWhole (cs : List Char) : Option (List Char × List Char) :=
  match cs with
  | '0' :: rest =>
    match rest with
    | c :: _ => if isAsciiDigit c then none else some (['0'], rest)
    | [] => some (['0'], rest)
  | _ =>
    match cs.takeWhile isAsciiDigit with
    | [] => none
    | digits => some (digits, cs.dropWhile isAsciiDigit)

/-- The digits after a point, if there is one, and what follows them. -/
def readFraction : List Char → Option (List Char × List Char)
  | '.' :: rest =>
    match rest.takeWhile isAsciiDigit with
    | [] => none
    | digits => some (digits, rest.dropWhile isAsciiDigit)
  | cs => some ([], cs)

/-- The exponent after its letter, if there is one, and what follows it. -/
def readExponent : List Char → Option (Option Int × List Char)
  | [] => some (none, [])
  | c :: rest =>
    if c = 'e' || c = 'E' then
      let (negative, rest) := match rest with
        | '-' :: rest => (true, rest)
        | '+' :: rest => (false, rest)
        | rest => (false, rest)
      match rest.takeWhile isAsciiDigit with
      | [] => none
      | digits =>
        let n : Int := digitsValue digits
        some (some (if negative then -n else n), rest.dropWhile isAsciiDigit)
    else some (none, c :: rest)

/-- The parts of a number without its sign: its whole digits, the digits after the point and the
exponent. What follows the number comes last. -/
def readParts (cs : List Char) :
    Option (List Char × List Char × Option Int × List Char) := do
  let (whole, rest) ← readWhole cs
  let (fraction, rest) ← readFraction rest
  let (exponent, rest) ← readExponent rest
  pure (whole, fraction, exponent, rest)

/-- A number without its sign, and what follows it. -/
def readMagnitude (negative : Bool) (cs : List Char) : Except ReadFault (Value × List Char) :=
  match readParts cs with
  | none => .error .malformed
  | some (whole, [], none, rest) =>
    if longestInteger < whole.length + negative.toNat then .error .outOfRange
    else
      let n : Int := digitsValue whole
      .ok (.int (if negative then -n else n), rest)
  | some (whole, fraction, exponent, rest) =>
    let shift : Int := exponent.getD 0 - fraction.length
    match Decimal.Double.ofDecimal negative (digitsValue (whole ++ fraction)) shift with
    | .finite negative magnitude => .ok (.float (.finite negative magnitude), rest)
    | _ => .error .outOfRange

/-- A number, and what follows it. -/
def readNumber : List Char → Except ReadFault (Value × List Char)
  | '-' :: rest => readMagnitude true rest
  | cs => readMagnitude false cs

/-- The entries with one more in front, unless a later one has its key. -/
def addEntry (key : String) (value : Value) (later : List (String × Value)) :
    List (String × Value) :=
  match later.lookup key with
  | none => (key, value) :: later
  | some last => (key, last) :: later.filter fun e => e.1 != key

/-- The characters of a string after its opening quote, and what follows the closing one. -/
def readString (cs : List Char) : Except ReadFault (String × List Char) :=
  match readText (cs.length + 1) cs with
  | some (s, rest) => .ok (String.ofList s, rest)
  | none => .error .malformed

mutual

/-- The value a text starts with, and what follows it. The fuel bounds the count of values and
of the separators between them, the room the count of lists and objects open at once. -/
def readValue : (fuel room : Nat) → List Char → Except ReadFault (Value × List Char)
  | 0, _, _ => .error .malformed
  | fuel + 1, room, cs =>
    match skipSpace cs with
    | 'n' :: 'u' :: 'l' :: 'l' :: rest => .ok (.none, rest)
    | 't' :: 'r' :: 'u' :: 'e' :: rest => .ok (.bool true, rest)
    | 'f' :: 'a' :: 'l' :: 's' :: 'e' :: rest => .ok (.bool false, rest)
    | '"' :: rest => (readString rest).map fun (s, rest) => (.text s, rest)
    | '[' :: rest =>
      match room with
      | 0 => .error .tooDeep
      | room + 1 =>
        match skipSpace rest with
        | ']' :: rest => .ok (.list [], rest)
        | rest => (readItems fuel room rest).map fun (items, rest) => (.list items, rest)
    | '\x7b' :: rest =>
      match room with
      | 0 => .error .tooDeep
      | room + 1 =>
        match skipSpace rest with
        | '\x7d' :: rest => .ok (.mapping [], rest)
        | rest => (readEntries fuel room rest).map fun (entries, rest) => (.mapping entries, rest)
    | cs => readNumber cs

/-- The values up to a closing bracket, and what follows it. -/
def readItems : (fuel room : Nat) → List Char → Except ReadFault (List Value × List Char)
  | 0, _, _ => .error .malformed
  | fuel + 1, room, cs =>
    match readValue fuel room cs with
    | .error fault => .error fault
    | .ok (v, rest) =>
      match skipSpace rest with
      | ']' :: rest => .ok ([v], rest)
      | ',' :: rest => (readItems fuel room rest).map fun (vs, rest) => (v :: vs, rest)
      | _ => .error .malformed

/-- The keys and values up to a closing brace, and what follows it. -/
def readEntries : (fuel room : Nat) → List Char →
    Except ReadFault (List (String × Value) × List Char)
  | 0, _, _ => .error .malformed
  | fuel + 1, room, cs =>
    match skipSpace cs with
    | '"' :: rest =>
      match readString rest with
      | .error fault => .error fault
      | .ok (key, rest) =>
        match skipSpace rest with
        | ':' :: rest =>
          match readValue fuel room rest with
          | .error fault => .error fault
          | .ok (v, rest) =>
            match skipSpace rest with
            | '\x7d' :: rest => .ok ([(key, v)], rest)
            | ',' :: rest =>
              (readEntries fuel room rest).map fun (es, rest) => (addEntry key v es, rest)
            | _ => .error .malformed
        | _ => .error .malformed
    | _ => .error .malformed

end

/-- The value of a JSON text. Only white space may stand around it. -/
def decode (s : String) : Except ReadFault Value :=
  let cs := s.toList
  match readValue (2 * cs.length + 1) deepestNesting cs with
  | .error fault => .error fault
  | .ok (v, rest) => if (skipSpace rest).isEmpty then .ok v else .error .malformed

end AnnotatedSql.Json
