import AnnotatedSql.Decimal.Double

/-!
# The shortest decimal of a double

A double stands for all the reals that round to it. Its shortest decimal is one of the fewest
digits among these reals, and of those the one nearest to the double itself. For each count of
digits only the two neighbours of the double on that decimal grid need to be looked at.
-/

namespace AnnotatedSql.Decimal

/-- A decimal: some digits times a power of ten. -/
structure Digits where
  /-- The digits as a number. -/
  number : Nat
  /-- The power of ten they are multiplied by. -/
  exponent : Int
  deriving DecidableEq, Repr

namespace Digits

/-- The digits as characters. -/
def characters (d : Digits) : List Char :=
  Nat.toDigits 10 d.number

/-- The power of ten of the first digit. -/
def leading (d : Digits) : Int :=
  d.exponent + (d.characters.length : Int) - 1

/-- The same decimal without zeros at the end, for up to so many of them. -/
def dropZeros : (fuel : Nat) → Digits → Digits
  | 0, d => d
  | fuel + 1, d =>
    if d.number % 10 = 0 && d.number != 0 then dropZeros fuel ⟨d.number / 10, d.exponent + 1⟩
    else d

end Digits

/-- The reals that round to a positive double, and the double itself, as numerators over one
denominator. -/
structure Interval where
  /-- The least real. -/
  low : Nat
  /-- The double. -/
  middle : Nat
  /-- The greatest real. -/
  high : Nat
  /-- The common denominator. -/
  denominator : Nat
  /-- The least and the greatest real round to the double themselves. -/
  closed : Bool

namespace Interval

/-- The interval of a positive magnitude: half the distance to either neighbour. Below a power
of two the neighbour is twice as near, unless the exponent is the least. -/
def ofBinary (b : Binary) : Interval :=
  let below := if b.significand = twoTo 52 && b.exponent ≠ Binary.leastExponent then 1 else 2
  let scale := twoTo (b.exponent - 2).toNat
  { low := (4 * b.significand - below) * scale
    middle := 4 * b.significand * scale
    high := (4 * b.significand + 2) * scale
    denominator := twoTo (2 - b.exponent).toNat
    closed := b.significand % 2 == 0 }

/-- A decimal lies in the interval. -/
def contains (i : Interval) (d : Digits) : Bool :=
  let point := d.number * tenTo d.exponent.toNat * i.denominator
  let scale := tenTo (-d.exponent).toNat
  if i.closed then i.low * scale ≤ point && point ≤ i.high * scale
  else i.low * scale < point && point < i.high * scale

/-- The greatest multiple of a power of ten that does not exceed the double. -/
def below (i : Interval) (exponent : Int) : Digits :=
  ⟨i.middle * tenTo (-exponent).toNat / (i.denominator * tenTo exponent.toNat), exponent⟩

/-- Twice the double minus the sum of two consecutive multiples of a power of ten is below
zero, zero or above: the double is nearer to the first, in their middle, or nearer to the
second. -/
def comparison (i : Interval) (first : Digits) : Ordering :=
  compare (2 * i.middle * tenTo (-first.exponent).toNat)
    ((2 * first.number + 1) * tenTo first.exponent.toNat * i.denominator)

/-- The decimal of the interval on the grid of a power of ten, if there is one: the nearer
neighbour of the double, and the even one in the middle. -/
def onGrid? (i : Interval) (exponent : Int) : Option Digits :=
  let first := i.below exponent
  let second : Digits := ⟨first.number + 1, exponent⟩
  match i.contains first, i.contains second with
  | true, true =>
    match i.comparison first with
    | .lt => some first
    | .gt => some second
    | .eq => if first.number % 2 = 0 then some first else some second
  | true, false => some first
  | false, true => some second
  | false, false => none

/-- The power of ten of the first digit of the double, found from an estimate that is at most
so much too great. -/
def leading (i : Interval) : (fuel : Nat) → (estimate : Int) → Int
  | 0, estimate => estimate
  | fuel + 1, estimate =>
    if i.denominator * tenTo estimate.toNat ≤ i.middle * tenTo (-estimate).toNat then estimate
    else leading i fuel (estimate - 1)

/-- The first decimal found on finer and finer grids. -/
def search (i : Interval) : (fuel : Nat) → (exponent : Int) → Digits
  | 0, exponent => i.below exponent
  | fuel + 1, exponent =>
    match i.onGrid? exponent with
    | some d => d
    | none => search i fuel (exponent - 1)

end Interval

/-- The shortest decimal of a positive magnitude. -/
def Binary.shortest (b : Binary) : Digits :=
  let i := Interval.ofBinary b
  let estimate : Int := ((Nat.toDigits 10 (i.middle / i.denominator)).length : Int)
  let leading := i.leading 330 estimate
  (i.search 17 leading).dropZeros 20

/-- How a format lays digits out. -/
structure Layout where
  /-- The least power of the first digit that is written without an exponent. -/
  least : Int
  /-- The greatest power of the first digit that is written without an exponent. -/
  greatest : Int
  /-- A positive exponent has its sign. -/
  plus : Bool
  /-- The least count of digits of an exponent. -/
  width : Nat

namespace Layout

/-- An exponent with its sign and at least the given count of digits. -/
def exponentText (layout : Layout) (exponent : Int) : List Char :=
  let sign := if exponent < 0 then ['-'] else if layout.plus then ['+'] else []
  let digits := Nat.toDigits 10 exponent.natAbs
  sign ++ List.replicate (layout.width - digits.length) '0' ++ digits

/-- Digits in the given layout. Without an exponent there is always a point with a digit on
either side. -/
def text (layout : Layout) (d : Digits) : List Char :=
  let cs := d.characters
  let leading := d.leading
  if layout.least ≤ leading && leading ≤ layout.greatest then
    if leading < 0 then
      '0' :: '.' :: List.replicate (-leading - 1).toNat '0' ++ cs
    else
      let whole := (leading + 1).toNat
      let fraction := cs.drop whole
      cs.take whole ++ List.replicate (whole - cs.length) '0' ++ '.' ::
        (if fraction.isEmpty then ['0'] else fraction)
  else
    let mantissa := match cs with
      | [] => []
      | [c] => [c]
      | c :: rest => c :: '.' :: rest
    mantissa ++ 'e' :: layout.exponentText leading

/-- A finite number in the given layout. -/
def number (layout : Layout) (negative : Bool) (magnitude : Binary) : String :=
  let digits :=
    if magnitude.significand = 0 then ['0', '.', '0'] else layout.text magnitude.shortest
  String.ofList (if negative then '-' :: digits else digits)

end Layout

end AnnotatedSql.Decimal
