/-!
# Placeholders

Drivers know parameters by numbered placeholders: a sign and a number.
-/

namespace AnnotatedSql

/-- How a driver writes placeholders. -/
inductive PlaceholderStyle where
  /-- A question mark and a number. -/
  | questionMark
  /-- A dollar sign and a number. -/
  | dollar
  /-- A colon and a number. -/
  | colon
  deriving DecidableEq, Repr

namespace PlaceholderStyle

/-- The style where nothing else is said. -/
def standard : PlaceholderStyle := questionMark

/-- All styles. -/
def all : List PlaceholderStyle :=
  [questionMark, dollar, colon]

/-- The name of the style in settings. -/
def label : PlaceholderStyle → String
  | questionMark => "qmark_numeric"
  | dollar => "numeric"
  | colon => "positional_colon"

/-- The name of the style in descriptions. -/
def constant : PlaceholderStyle → String
  | questionMark => "QMARK_NUMERIC"
  | dollar => "NUMERIC"
  | colon => "POSITIONAL_COLON"

/-- The style of a name. -/
def ofLabel? (s : String) : Option PlaceholderStyle :=
  all.find? fun style => style.label == s

/-- The sign in front of the number. -/
def sign : PlaceholderStyle → Char
  | questionMark => '?'
  | dollar => '$'
  | colon => ':'

/-- The placeholder with some text in place of its number. -/
def write (style : PlaceholderStyle) (text : String) : String :=
  style.sign.toString ++ text

/-- The placeholder of a number. -/
def render (style : PlaceholderStyle) (index : Int) : String :=
  style.write (toString index)

/-- The style in descriptions. -/
def describe (style : PlaceholderStyle) : String :=
  "<PlaceholderStyle." ++ style.constant ++ ": '" ++ style.label ++ "'>"

/-- Every style is read back from its name. -/
@[simp] theorem ofLabel?_label (style : PlaceholderStyle) : ofLabel? style.label = some style := by
  cases style <;> decide

end PlaceholderStyle

end AnnotatedSql
