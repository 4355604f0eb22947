/-!
# Paths

A path is a list of names. Empty names and single points mean nothing, and the path without any
name is written as a point. A path that starts at the root of all files has a slash in front, but
two slashes are kept apart from one.
-/

namespace AnnotatedSql

/-- Where a path starts. -/
inductive PathStart where
  /-- At the working directory. -/
  | here
  /-- At the root of all files. -/
  | root
  /-- At the root that two slashes stand for. -/
  | otherRoot
  deriving DecidableEq, Repr

namespace PathStart

/-- The start of a path by its text. -/
def ofChars : List Char → PathStart
  | '/' :: '/' :: '/' :: _ => root
  | '/' :: '/' :: _ => otherRoot
  | '/' :: _ => root
  | _ => here

/-- What is written in front of the names. -/
def text : PathStart → String
  | here => ""
  | root => "/"
  | otherRoot => "//"

end PathStart

/-- A path to a file or a folder. -/
structure FilePath where
  /-- Where it starts. -/
  start : PathStart
  /-- The names that lead to the file. -/
  parts : List String
  deriving DecidableEq, Repr

namespace FilePath

/-- The path that a text writes. -/
def ofString (s : String) : FilePath :=
  { start := .ofChars s.toList
    parts := ((s.toList.splitOn '/').map String.ofList).filter fun part =>
      part != "" && part != "." }

/-- The path as text. -/
def text (p : FilePath) : String :=
  let whole := p.start.text ++ String.intercalate "/" p.parts
  if whole = "" then "." else whole

/-- The last name, or nothing. -/
def name (p : FilePath) : String :=
  p.parts.getLast?.getD ""

/-- The path to an entry of the folder at this path. -/
def child (p : FilePath) (entry : String) : FilePath :=
  { p with parts := p.parts ++ [entry] }

/-- What follows the last point of a name, with the point, unless one of the two sides of the
point is empty. -/
def suffixOf (name : String) : List Char :=
  let reversed := name.toList.reverse
  let after := reversed.takeWhile (· != '.')
  match reversed.dropWhile (· != '.') with
  | '.' :: _ :: _ => if after.isEmpty then [] else '.' :: after.reverse
  | _ => []

end FilePath

end AnnotatedSql
