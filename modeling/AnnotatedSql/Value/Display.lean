import AnnotatedSql.Decimal.Shortest
import AnnotatedSql.Text.Quoted
import AnnotatedSql.Value.Basic

/-!
# How values are shown

A description of a value shows texts in quotes, so that values of different types look
different. In running text a text stands as it is. A whole number that is too long has no text;
the descriptions here are those of values that can be shown.
-/

namespace AnnotatedSql.Value

/-- Descriptions write a float without an exponent from a ten-thousandth up to below ten to the
sixteenth; an exponent has its sign and two digits. -/
def floatLayout : Decimal.Layout :=
  ⟨-4, 15, true, 2⟩

/-- A float in descriptions. -/
def describeFloat : Decimal.Double → String
  | .nan => "nan"
  | .infinite negative => if negative then "-inf" else "inf"
  | .finite negative magnitude => floatLayout.number negative magnitude

/-- A whole number with more digits than these has no text. -/
def longestNumber : Nat := 4300

mutual

/-- The value can be shown: none of the whole numbers in it is too long. -/
def isShowable : Value → Bool
  | int n => decide (n.natAbs < Decimal.tenTo longestNumber)
  | list items | tuple items => areShowable items
  | mapping entries => entriesAreShowable entries
  | none | bool _ | float _ | text _ | bytes _ | object _ | stream _ | connection | callback _ =>
    true

/-- The values can be shown. -/
def areShowable : List Value → Bool
  | [] => true
  | v :: rest => isShowable v && areShowable rest

/-- The values of the entries of a dictionary can be shown. -/
def entriesAreShowable : List (String × Value) → Bool
  | [] => true
  | (_, v) :: rest => isShowable v && entriesAreShowable rest

end

mutual

/-- A value that can be shown, in descriptions. -/
def describe : Value → String
  | none => "None"
  | bool b => if b then "True" else "False"
  | int n => toString n
  | float x => describeFloat x
  | text s => Text.quoted s
  | bytes bs => Text.quotedBytes bs
  | list items => "[" ++ String.intercalate ", " (describeAll items) ++ "]"
  | tuple items =>
    match items with
    | [item] => "(" ++ describe item ++ ",)"
    | items => "(" ++ String.intercalate ", " (describeAll items) ++ ")"
  | mapping entries => "\x7b" ++ String.intercalate ", " (describeEntries entries) ++ "\x7d"
  | object _ => "<Obj object>"
  | stream _ => "<generator object>"
  | connection => "<Conn object>"
  | callback _ => "<Callback object>"

/-- Values in descriptions. -/
def describeAll : List Value → List String
  | [] => []
  | v :: rest => describe v :: describeAll rest

/-- The entries of a dictionary in descriptions. -/
def describeEntries : List (String × Value) → List String
  | [] => []
  | (k, v) :: rest => (Text.quoted k ++ ": " ++ describe v) :: describeEntries rest

end

/-- A value that can be shown, in running text. -/
def display : Value → String
  | text s => s
  | object s => s
  | v => describe v

/-- An optional text in descriptions. -/
def describeText? (s : Option String) : String :=
  describe (ofText? s)

end AnnotatedSql.Value
