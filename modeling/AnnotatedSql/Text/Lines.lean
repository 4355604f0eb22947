/-!
# Lines

A line ends at a newline character and nowhere else. Text read from a file has its other line
ends, a carriage return with or without a newline after it, turned into newlines first.
-/

namespace AnnotatedSql.Text

/-- The lines of a text. There is always at least one. -/
def lines (s : String) : List String :=
  (s.toList.splitOn '\n').map String.ofList

/-- The text of some lines, with a newline between each and the next. -/
def unlines (ls : List String) : String :=
  String.intercalate "\n" ls

/-- Every line end as a single newline. -/
def normalizeNewlines : List Char → List Char
  | [] => []
  | [c] => [if c = '\r' then '\n' else c]
  | c :: d :: rest =>
    if c = '\r' then
      if d = '\n' then '\n' :: normalizeNewlines rest else '\n' :: normalizeNewlines (d :: rest)
    else c :: normalizeNewlines (d :: rest)

end AnnotatedSql.Text
