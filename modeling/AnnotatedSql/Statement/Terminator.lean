import AnnotatedSql.Text.Blank
import AnnotatedSql.Value.Display

/-!
# Terminators

What a line holds that ends a statement. A terminator is a text; bytes are accepted in its place,
but no line of a text is equal to bytes, so that nothing ends at them.
-/

namespace AnnotatedSql

/-- What the line that ends a statement holds. -/
inductive Terminator where
  | text (marker : String)
  | bytes (marker : List UInt8)
  deriving DecidableEq, Repr

namespace Terminator

/-- The terminator where nothing else is said. -/
def standard : Terminator := text "/"

/-- The terminator that a value is. -/
def ofValue? : Value → Option Terminator
  | .text s => some (text s)
  | .bytes bs => some (bytes bs)
  | _ => none

/-- The terminator as a value. -/
def value : Terminator → Value
  | text s => .text s
  | bytes bs => .bytes bs

/-- The terminator in descriptions. -/
def describe (t : Terminator) : String :=
  t.value.describe

/-- The terminator without the blanks around it. -/
def strip : Terminator → Terminator
  | text s => text (Text.strip s)
  | bytes bs => bytes (Text.stripBytes bs)

/-- Nothing is left of the terminator. -/
def isEmpty : Terminator → Bool
  | text s => s == ""
  | bytes bs => bs.isEmpty

/-- A line holds the terminator and otherwise blanks. -/
def ends (t : Terminator) (line : String) : Bool :=
  match t with
  | text s => Text.strip line == s
  | bytes _ => false

end Terminator

end AnnotatedSql
