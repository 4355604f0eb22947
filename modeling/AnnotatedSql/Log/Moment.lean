/-!
# Moments

The moment of a record, and how it is shown: as a date and a time of day, or as a pattern says. The
calendar is the Gregorian one, and the clock that of Greenwich.
-/

namespace AnnotatedSql.Log

/-- A point in time. -/
structure Moment where
  /-- The milliseconds since the beginning of the year 1970. -/
  milliseconds : Nat
  deriving DecidableEq, Repr

namespace Moment

/-- The beginning of the year 1970. -/
def epoch : Moment := ⟨0⟩

/-- The seconds since the beginning of the year 1970, without a fraction. -/
def seconds (moment : Moment) : Nat :=
  moment.milliseconds / 1000

/-- A date. -/
structure Date where
  year : Nat
  month : Nat
  day : Nat
  deriving DecidableEq, Repr

/-- The date after so many days since the beginning of the year 1970. Years are counted from the
first of March, in spans of four hundred years. -/
def dateAfter (days : Nat) : Date :=
  let sinceMarch := days + 719468
  let span := sinceMarch / 146097
  let dayOfSpan := sinceMarch % 146097
  let yearOfSpan := (dayOfSpan - dayOfSpan / 1460 + dayOfSpan / 36524 - dayOfSpan / 146096) / 365
  let dayOfYear := dayOfSpan - (365 * yearOfSpan + yearOfSpan / 4 - yearOfSpan / 100)
  let month := (5 * dayOfYear + 2) / 153
  let year := span * 400 + yearOfSpan
  { year := if month < 10 then year else year + 1
    month := if month < 10 then month + 3 else month - 9
    day := dayOfYear - (153 * month + 2) / 5 + 1 }

/-- The date of the moment. -/
def date (moment : Moment) : Date :=
  dateAfter (moment.seconds / 86400)

/-- A number with at least so many digits. -/
def padded (width n : Nat) : List Char :=
  let digits := Nat.toDigits 10 n
  List.replicate (width - digits.length) '0' ++ digits

/-- What a directive of a pattern shows, if it is one of those for the numbers of the date and of
the time of day. -/
def directive? (moment : Moment) : Char → Option (List Char)
  | 'Y' => some (padded 1 moment.date.year)
  | 'y' => some (padded 2 (moment.date.year % 100))
  | 'm' => some (padded 2 moment.date.month)
  | 'd' => some (padded 2 moment.date.day)
  | 'H' => some (padded 2 (moment.seconds / 3600 % 24))
  | 'M' => some (padded 2 (moment.seconds / 60 % 60))
  | 'S' => some (padded 2 (moment.seconds % 60))
  | '%' => some ['%']
  | _ => none

/-- A pattern with its directives filled in. -/
def fill (moment : Moment) : List Char → List Char
  | '%' :: c :: rest => (moment.directive? c).getD ['%', c] ++ moment.fill rest
  | c :: rest => c :: moment.fill rest
  | [] => []

/-- The moment in a log: the date, the time of day and the milliseconds. -/
def text (moment : Moment) : String :=
  String.ofList
    (moment.fill "%Y-%m-%d %H:%M:%S".toList ++ ',' :: padded 3 (moment.milliseconds % 1000))

end Moment

/-- How a pattern shows moments. An empty pattern leaves it at how they are shown in a log. -/
def timeText (pattern : String) (moment : Moment) : String :=
  if pattern = "" then moment.text else String.ofList (moment.fill pattern.toList)

end AnnotatedSql.Log
