/-!
# Blank characters

The twenty-nine characters that count as white space, and trimming by them. A line is blank
when it holds nothing else.
-/

namespace AnnotatedSql.Text

/-- White space: the control characters that move the cursor or separate records, the spaces
of every width, and the line and paragraph separators. -/
def isBlank (c : Char) : Bool :=
  let n := c.toNat
  (9 ≤ n && n ≤ 13) || (28 ≤ n && n ≤ 32) || n == 0x85 || n == 0xA0 || n == 0x1680
    || (0x2000 ≤ n && n ≤ 0x200A) || n == 0x2028 || n == 0x2029 || n == 0x202F
    || n == 0x205F || n == 0x3000

/-- The text without the blanks in front. -/
def trimLeft (cs : List Char) : List Char :=
  cs.dropWhile isBlank

/-- The text without the blanks at its end. -/
def trimRight : List Char → List Char
  | [] => []
  | c :: rest =>
    match trimRight rest with
    | [] => if isBlank c then [] else [c]
    | d :: kept => c :: d :: kept

/-- The text without the blanks at either end. -/
def trim (cs : List Char) : List Char :=
  trimRight (trimLeft cs)

/-- White space among bytes: the spaces of ASCII and the controls that move the cursor. -/
def isBlankByte (b : UInt8) : Bool :=
  b == 32 || (9 ≤ b && b ≤ 13)

/-- Nothing but blanks. -/
def isBlankText (cs : List Char) : Bool :=
  cs.all isBlank

/-- The text without the blanks at either end. -/
def strip (s : String) : String :=
  String.ofList (trim s.toList)

/-- Bytes without the blanks at either end. -/
def stripBytes (bs : List UInt8) : List UInt8 :=
  ((bs.dropWhile isBlankByte).reverse.dropWhile isBlankByte).reverse

/-- The text without the blanks at its end. -/
def stripRight (s : String) : String :=
  String.ofList (trimRight s.toList)

end AnnotatedSql.Text
