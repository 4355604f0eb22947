/-!
# Doubles

A double is not a number, an infinity, or a sign and a magnitude: a whole number below two to
the fifty-third times a power of two. Decimals are rounded to the nearest double, and in the
middle between two of them to the one whose whole number is even.
-/

namespace AnnotatedSql.Decimal

/-- A power of two. -/
def twoTo (n : Nat) : Nat := Nat.pow 2 n

/-- A power of ten. -/
def tenTo (n : Nat) : Nat := Nat.pow 10 n

/-- A magnitude: a whole number times a power of two. -/
structure Binary where
  /-- The whole number. -/
  significand : Nat
  /-- The power of two it is multiplied by. -/
  exponent : Int
  deriving DecidableEq, Repr

namespace Binary

/-- The least exponent. -/
def leastExponent : Int := -1074

/-- The greatest exponent. -/
def greatestExponent : Int := 971

/-- The form in which a magnitude is unique: the whole number has all of its fifty-three bits,
unless the exponent is the least. -/
def IsCanonical (b : Binary) : Prop :=
  b.significand < twoTo 53 ∧ leastExponent ≤ b.exponent ∧ b.exponent ≤ greatestExponent ∧
    (twoTo 52 ≤ b.significand ∨ b.exponent = leastExponent)

/-- The numerator of the magnitude as a fraction. -/
def numerator (b : Binary) : Nat :=
  b.significand * twoTo b.exponent.toNat

/-- The denominator of the magnitude as a fraction. -/
def denominator (b : Binary) : Nat :=
  twoTo (-b.exponent).toNat

/-- The magnitude without its fractional part. -/
def floor (b : Binary) : Nat :=
  b.numerator / b.denominator

/-- The magnitude zero. -/
def zero : Binary := ⟨0, leastExponent⟩

end Binary

/-- A fraction rounded to a whole number, a half to the even one. -/
def roundHalfEven (numerator denominator : Nat) : Nat :=
  let quotient := numerator / denominator
  let rest := numerator % denominator
  if 2 * rest < denominator then quotient
  else if denominator < 2 * rest then quotient + 1
  else if quotient % 2 = 0 then quotient
  else quotient + 1

/-- A fraction is at least a power of two. -/
def powerAtMost (numerator denominator : Nat) (exponent : Int) : Bool :=
  denominator * twoTo exponent.toNat ≤ numerator * twoTo (-exponent).toNat

/-- The exponent of the doubles around a positive fraction: the one that leaves fifty-three bits
of whole number, but no less than the least. -/
def roundingExponent (numerator denominator : Nat) : Int :=
  let estimate : Int := (numerator.log2 : Int) - denominator.log2
  let top := if powerAtMost numerator denominator estimate then estimate else estimate - 1
  max (top - 52) Binary.leastExponent

/-- The magnitude nearest to a positive fraction; none when it is too great. -/
def Binary.ofRatio? (numerator denominator : Nat) : Option Binary :=
  let exponent := roundingExponent numerator denominator
  let significand :=
    roundHalfEven (numerator * twoTo (-exponent).toNat) (denominator * twoTo exponent.toNat)
  let rounded : Binary :=
    if significand = twoTo 53 then ⟨twoTo 52, exponent + 1⟩ else ⟨significand, exponent⟩
  if rounded.exponent ≤ Binary.greatestExponent then some rounded else none

/-- A double. -/
inductive Double where
  /-- Not a number. -/
  | nan
  /-- Infinite, with its sign. -/
  | infinite (negative : Bool)
  /-- Finite: a sign and a magnitude. -/
  | finite (negative : Bool) (magnitude : Binary)
  deriving DecidableEq, Repr

namespace Double

/-- Positive or negative zero. -/
def isZero : Double → Bool
  | finite _ m => m.significand == 0
  | nan | infinite _ => false

/-- The double nearest to a decimal: some digits times a power of ten. -/
def ofDecimal (negative : Bool) (digits : Nat) (exponent : Int) : Double :=
  if digits = 0 then finite negative .zero
  else if 400 < exponent then infinite negative
  else if (Nat.toDigits 10 digits).length + exponent < -400 then finite negative .zero
  else
    match Binary.ofRatio? (digits * tenTo exponent.toNat) (tenTo (-exponent).toNat) with
    | some m => finite negative m
    | none => infinite negative

end Double

end AnnotatedSql.Decimal
