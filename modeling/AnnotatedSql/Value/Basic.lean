import AnnotatedSql.Decimal.Double

/-!
# Values

The values that go into a statement and come out of it: what is bound to placeholders, what a
row holds, what a callback gives back. A value knows its type's name, counts as true or false,
and may have elements.
-/

namespace AnnotatedSql

/-- A value. -/
inductive Value where
  /-- No value. -/
  | none
  | bool (b : Bool)
  | int (n : Int)
  | float (x : Decimal.Double)
  | text (s : String)
  | bytes (bytes : List UInt8)
  | list (items : List Value)
  | tuple (items : List Value)
  /-- Keys with their values, in order. -/
  | mapping (entries : List (String × Value))
  /-- A thing of which only its text is known. -/
  | object (text : String)
  /-- Elements that can be read once. -/
  | stream (items : List Value)
  /-- The connection an operation runs on. -/
  | connection
  /-- A row callback, by its number. -/
  | callback (number : Nat)

namespace Value

/-- The name of a value's type in messages. -/
def typeName : Value → String
  | none => "NoneType"
  | bool _ => "bool"
  | int _ => "int"
  | float _ => "float"
  | text _ => "str"
  | bytes _ => "bytes"
  | list _ => "list"
  | tuple _ => "tuple"
  | mapping _ => "dict"
  | object _ => "Obj"
  | stream _ => "generator"
  | connection => "Conn"
  | callback _ => "Callback"

/-- Nothing, false, zero and what is empty count as false, all else as true. -/
def isTrue : Value → Bool
  | none => false
  | bool b => b
  | int n => n != 0
  | float x => !x.isZero
  | text s => s != ""
  | bytes bs => !bs.isEmpty
  | list items => !items.isEmpty
  | tuple items => !items.isEmpty
  | mapping entries => !entries.isEmpty
  | object _ | stream _ | connection | callback _ => true

/-- The whole number a value is; truth values are one and zero. -/
def integer? : Value → Option Int
  | bool b => some (if b then 1 else 0)
  | int n => some n
  | _ => Option.none

/-- The value is a number; truth values are numbers too. -/
def isNumber : Value → Bool
  | bool _ | int _ | float _ => true
  | _ => false

/-- The value is no whole number that takes more than sixty-four bits with its sign. -/
def fitsWord (v : Value) : Bool :=
  match v.integer? with
  | some n => decide (-9223372036854775808 ≤ n) && decide (n < 9223372036854775808)
  | Option.none => true

/-- The elements of a value that has some: the characters of a text, the numbers of bytes, the
keys of a dictionary. -/
def elements? : Value → Option (List Value)
  | text s => some (s.toList.map fun c => text c.toString)
  | bytes bs => some (bs.map fun b => int b.toNat)
  | list items => some items
  | tuple items => some items
  | mapping entries => some (entries.map fun e => text e.1)
  | stream items => some items
  | none | bool _ | int _ | float _ | object _ | connection | callback _ => Option.none

/-- What is left of a value once its elements have been read: a stream is empty then. -/
def afterReading : Value → Value
  | stream _ => stream []
  | v => v

/-- The value of an optional text. -/
def ofText? : Option String → Value
  | some s => text s
  | Option.none => none

end Value

end AnnotatedSql
