import AnnotatedSql.Statement.Block
import AnnotatedSql.Statement.Problem
import AnnotatedSql.Text.Blank
import AnnotatedSql.Text.Lines

/-!
# Cutting text into blocks

A line that holds the terminator and otherwise blanks ends a section of the text. A section is
a block of a statement, without the blank lines it starts with, unless it is blank altogether.
What follows the last terminator line is not terminated: if it is not blank, that is an error.
-/

namespace AnnotatedSql

namespace Section

/-- The line holds nothing but blanks. -/
def isBlankLine (line : String) : Bool :=
  Text.isBlankText line.toList

/-- The sections that a terminator line ends, and the lines after the last of these. -/
def cut (ends : String → Bool) : List String → List (List String) × List String
  | [] => ([], [])
  | line :: rest =>
    let (sections, tail) := cut ends rest
    if ends line then ([] :: sections, tail)
    else match sections with
      | [] => ([], line :: tail)
      | first :: others => ((line :: first) :: others, tail)

/-- The block of a section whose first line has the given number, if the section is not blank. -/
def block? (sourceName : String) (number : Nat) (sectionLines : List String) : Option Block :=
  match sectionLines.dropWhile isBlankLine with
  | [] => none
  | kept =>
    some {
      text := Text.unlines kept
      startLine := (number + (sectionLines.takeWhile isBlankLine).length : Nat)
      endLine := (number + sectionLines.length : Nat) - 1
      sourceName := sourceName }

/-- The blocks of consecutive sections, the first of which starts at the given line. Each is
followed by its terminator line. -/
def blocks (sourceName : String) : Nat → List (List String) → List Block
  | _, [] => []
  | number, s :: rest =>
    (block? sourceName number s).toList ++ blocks sourceName (number + s.length + 1) rest

/-- How many lines some sections take up with their terminator lines. -/
def lineCount : List (List String) → Nat
  | [] => 0
  | s :: rest => s.length + 1 + lineCount rest

end Section

/-- A text cut into blocks. -/
structure Segmentation where
  /-- The terminated blocks, in order. -/
  blocks : List Block
  /-- The error about text after the last terminator line. -/
  unterminated : Option CompileError

/-- Cuts a text at the lines that hold the terminator. Blanks around the terminator do not
count; of a blank terminator nothing is left, so that every blank line ends a section. -/
def segment (text : String) (terminator : Terminator) (sourceName : String) : Segmentation :=
  let marker := terminator.strip
  let (sections, tail) := Section.cut marker.ends (Text.lines text)
  { blocks := Section.blocks sourceName 1 sections
    unterminated := (Section.block? sourceName (Section.lineCount sections + 1) tail).map fun b =>
      { problem := .unterminated marker, statement := none, location := some b.location } }

end AnnotatedSql
