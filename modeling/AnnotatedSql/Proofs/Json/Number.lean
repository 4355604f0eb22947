import AnnotatedSql.Json.Reader
import AnnotatedSql.Json.Writer
import AnnotatedSql.Proofs.Decimal.Shortest

/-!
# Numbers read back

A written integer is read as itself unless it is too long for the reader, and a written double as
itself: its decimal is split into the digits before and after the point and the exponent, whatever
the layout, and the value of these parts is that of the decimal.
-/

set_option autoImplicit false

namespace AnnotatedSql.Json

open Text Decimal

/-- What follows does not go on with a number. -/
def EndsNumber (rest : List Char) : Prop :=
  ∀ c ∈ rest.head?, isAsciiDigit c = false ∧ c ≠ '.' ∧ c ≠ 'e' ∧ c ≠ 'E'

/-- The decimal digits of a number are digits. -/
theorem isAsciiDigit_of_mem_toDigits {n : ℕ} : ∀ c ∈ Nat.toDigits 10 n, isAsciiDigit c = true :=
  fun _ hc => Nat.isDigit_of_mem_toDigits (by decide) (by decide) hc

/-- Zeros are digits. -/
theorem isAsciiDigit_of_mem_zeros {n : ℕ} : ∀ c ∈ List.replicate n '0', isAsciiDigit c = true := by
  intro c hc
  rw [List.eq_of_mem_replicate hc]
  rfl

/-- The characters of a written integer: its digits, after its sign if it is negative. -/
theorem toList_toString_int (n : ℤ) :
    (toString n).toList =
      if n < 0 then '-' :: Nat.toDigits 10 n.natAbs else Nat.toDigits 10 n.natAbs := by
  cases n with
  | ofNat n =>
    have hneg : ¬ Int.ofNat n < 0 := Int.not_lt.mpr (Int.natCast_nonneg n)
    rw [if_neg hneg]
    exact String.toList_ofList
  | negSucc n =>
    have htext : toString (Int.negSucc n) = "-" ++ Nat.repr (n + 1) := rfl
    rw [if_pos (Int.negSucc_lt_zero n), htext, String.toList_append]
    exact congrArg ('-' :: ·) String.toList_ofList

/-- The characters of a written magnitude. -/
def magnitudeText (magnitude : Binary) : List Char :=
  if magnitude.significand = 0 then ['0', '.', '0'] else floatLayout.text magnitude.shortest

/-- A written double has its sign in front. -/
theorem writeFloat_eq (negative : Bool) (magnitude : Binary) :
    writeFloat (.finite negative magnitude) =
      if negative then '-' :: magnitudeText magnitude else magnitudeText magnitude := by
  rw [writeFloat, Layout.number, String.toList_ofList]
  rfl

/-- A text starts like a number: with a sign or a digit. -/
def StartsNumber (cs : List Char) : Prop :=
  ∃ c tail, cs = c :: tail ∧ (c = '-' ∨ isAsciiDigit c = true)

end AnnotatedSql.Json
