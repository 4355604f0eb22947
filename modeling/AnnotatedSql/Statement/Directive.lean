import AnnotatedSql.Text.Blank
import AnnotatedSql.Text.Word

/-!
# Directives

A header line is a comment, and a directive is a comment whose first word is `name` or `param`,
in any case, with a colon after it. What follows the colon is read elsewhere.
-/

namespace AnnotatedSql

open Text

/-- A line without the blanks in front starts with two hyphens: what follows these. -/
def commentText? (line : List Char) : Option (List Char) :=
  match trimLeft line with
  | '-' :: '-' :: rest => some rest
  | _ => none

/-- The text after a word at its start, whatever the case of the word's letters. -/
def afterWord? : (word text : List Char) → Option (List Char)
  | [], text => some text
  | _ :: _, [] => none
  | w :: word, c :: text => if asciiLower c = w then afterWord? word text else none

/-- The directives of a header. -/
inductive Directive where
  /-- The statement's name and selector. -/
  | name
  /-- A parameter and its type. -/
  | param
  deriving DecidableEq, Repr

namespace Directive

/-- The word that starts a directive. -/
def word : Directive → List Char
  | name => ['n', 'a', 'm', 'e']
  | param => ['p', 'a', 'r', 'a', 'm']

/-- What follows the colon of a line with the given directive. -/
def argument? (directive : Directive) (line : List Char) : Option (List Char) := do
  let comment ← commentText? line
  let rest ← afterWord? directive.word (trimLeft comment)
  match trimLeft rest with
  | ':' :: argument => some argument
  | _ => none

/-- The directive on a line, if it holds one. -/
def ofLine? (line : List Char) : Option Directive :=
  if (argument? .name line).isSome then some .name
  else if (argument? .param line).isSome then some .param
  else none

end Directive

/-- May start a name in a header: an ASCII letter, an underscore, or one of the four characters
outside ASCII that are the other case of an ASCII letter. -/
def isHeaderNameStart (c : Char) : Bool :=
  isAsciiLetter c || c == '_' || c == '\u0130' || c == '\u0131' || c == '\u017F' || c == '\u212A'

/-- The name a text starts with, blanks aside, and what follows it. -/
def headerName? (text : List Char) : Option (List Char × List Char) :=
  match trimLeft text with
  | [] => none
  | c :: rest =>
    if isHeaderNameStart c then some (c :: rest.takeWhile isWord, rest.dropWhile isWord)
    else none

end AnnotatedSql
