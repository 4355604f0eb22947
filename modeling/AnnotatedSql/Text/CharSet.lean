/-!
# Sets of characters

A set is given by its boundaries: the code points, in rising order, at which membership
changes. A character belongs when an odd number of boundaries lie at or below it.
-/

namespace AnnotatedSql.Text

/-- A set of characters, as the rising list of code points at which membership changes. -/
structure CharSet where
  /-- The first code point inside, then the first one outside again, and so on. -/
  boundaries : List Nat

/-- A character belongs when an odd number of boundaries lie at or below it. -/
def CharSet.contains (set : CharSet) (c : Char) : Bool :=
  (set.boundaries.takeWhile (· ≤ c.toNat)).length % 2 == 1

/-- The letters from A to Z in either case. -/
def isAsciiLetter (c : Char) : Bool :=
  ('a' ≤ c && c ≤ 'z') || ('A' ≤ c && c ≤ 'Z')

/-- The digits from 0 to 9. -/
def isAsciiDigit (c : Char) : Bool :=
  '0' ≤ c && c ≤ '9'

/-- The lower case of an ASCII letter; every other character stays. -/
def asciiLower (c : Char) : Char :=
  if 'A' ≤ c && c ≤ 'Z' then Char.ofNat (c.toNat + 32) else c

end AnnotatedSql.Text
