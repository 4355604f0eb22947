/-!
# Statement blocks

The text of one statement as it was written, with the lines it came from. Messages about it
name its source and a line.
-/

namespace AnnotatedSql

/-- The text of one statement and where it stands. Lines count from one, both ends included. -/
structure Block where
  /-- The lines of the statement, as written. -/
  text : String
  /-- The line its text starts on. -/
  startLine : Int
  /-- The line its text ends on. -/
  endLine : Int
  /-- What the text was read from. -/
  sourceName : String
  deriving DecidableEq, Repr

namespace Block

/-- The source of text that was read from nowhere in particular. -/
def unnamedSource : String := "<string>"

/-- The place of the line so many lines into the block. -/
def lineLocation (block : Block) (offset : Int) : String :=
  block.sourceName ++ ":" ++ toString (block.startLine + offset)

/-- The place of the first line. -/
def location (block : Block) : String :=
  block.sourceName ++ ":" ++ toString block.startLine

/-- The block in descriptions. -/
def describe (block : Block) : String :=
  "StatementSource(" ++ block.location ++ "-" ++ toString block.endLine ++ ")"

end Block

end AnnotatedSql
