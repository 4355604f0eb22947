import AnnotatedSql.Decimal.Shortest
import Mathlib.Algebra.Order.Field.Power
import Mathlib.Data.Int.Log
import Mathlib.Data.Rat.Cast.Order
import Mathlib.Data.Rat.Floor
import Mathlib.Tactic.FieldSimp
import Mathlib.Tactic.Linarith
import Mathlib.Tactic.NormNum
import Mathlib.Tactic.Positivity
import Mathlib.Tactic.Ring

/-!
# Decimals that round to a double

A decimal is read as the double whose rounding interval it lies in: half a unit of the last place to
either side, the ends included when the whole number is even, and a quarter of a unit below a power
of two, where the neighbour is twice as near.
-/

set_option autoImplicit false

namespace AnnotatedSql.Decimal

/-- A power of two as a rational. -/
theorem cast_twoTo (n : ℕ) : ((twoTo n : ℕ) : ℚ) = 2 ^ n := by
  simp only [twoTo, Nat.pow_eq, Nat.cast_pow, Nat.cast_ofNat]

/-- A power of ten as a rational. -/
theorem cast_tenTo (n : ℕ) : ((tenTo n : ℕ) : ℚ) = 10 ^ n := by
  simp only [tenTo, Nat.pow_eq, Nat.cast_pow, Nat.cast_ofNat]

/-- A power is kept as a fraction of whole numbers. -/
theorem pow_toNat_div {a : ℚ} (ha : a ≠ 0) (e : ℤ) : a ^ e.toNat / a ^ (-e).toNat = a ^ e := by
  rw [← zpow_natCast, ← zpow_natCast, ← zpow_sub₀ ha, Int.toNat_sub_toNat_neg]

/-- Ten to a power, kept as a fraction. -/
theorem tenTo_div (e : ℤ) : ((tenTo e.toNat : ℕ) : ℚ) / (tenTo (-e).toNat : ℕ) = 10 ^ e := by
  rw [cast_tenTo, cast_tenTo, pow_toNat_div (by norm_num)]

/-- A power of ten is positive. -/
theorem tenTo_pos (n : ℕ) : 0 < tenTo n := Nat.pow_pos (by decide)

/-- The numbers below a power of ten are those with so few digits. -/
theorem length_toDigits_le_iff {n count : ℕ} (hcount : 0 < count) :
    (Nat.toDigits 10 n).length ≤ count ↔ n < tenTo count :=
  Nat.length_toDigits_le_iff (by decide) hcount

namespace Binary

/-- How many units of the last place below a magnitude still round to it. -/
def roomBelow (b : Binary) : ℚ :=
  if b.significand = twoTo 52 ∧ b.exponent ≠ leastExponent then 1 / 4 else 1 / 2

/-- A rational rounds to a magnitude. -/
structure Rounds (b : Binary) (x : ℚ) : Prop where
  /-- It is not too small. -/
  low_le : (b.significand - b.roomBelow) * 2 ^ b.exponent ≤ x
  /-- It is not too great. -/
  le_high : x ≤ (b.significand + 1 / 2) * 2 ^ b.exponent
  /-- A magnitude with an odd whole number leaves the ends to its neighbours. -/
  odd : b.significand % 2 = 1 →
    (b.significand - b.roomBelow) * 2 ^ b.exponent ≠ x ∧
      x ≠ (b.significand + 1 / 2) * 2 ^ b.exponent

/-- There is a quarter of a unit below, and no more than half of one. -/
theorem roomBelow_bounds (b : Binary) : 1 / 4 ≤ b.roomBelow ∧ b.roomBelow ≤ 1 / 2 := by
  unfold roomBelow
  split <;> norm_num

end Binary

namespace Binary

variable {b : Binary}

/-- What rounds to a positive magnitude is at least half as great. -/
theorem Rounds.half_le (hs : 0 < b.significand) {x : ℚ} (h : b.Rounds x) :
    b.significand / 2 * 2 ^ b.exponent ≤ x := by
  have hone : (1 : ℚ) ≤ b.significand := by exact_mod_cast hs
  have hroom := b.roomBelow_bounds
  refine le_trans ?_ h.low_le
  gcongr
  linarith

/-- What rounds to a positive magnitude is positive. -/
theorem Rounds.pos (hs : 0 < b.significand) {x : ℚ} (h : b.Rounds x) : 0 < x := by
  have hs' : (0 : ℚ) < b.significand := by exact_mod_cast hs
  exact lt_of_lt_of_le (by positivity) (h.half_le hs)

/-- A normal magnitude is at least the least one with its exponent, and what rounds to it is so too
unless the magnitude is that least one. -/
theorem Rounds.normal (hb : b.IsCanonical) {x : ℚ} (h : b.Rounds x)
    (hleast : b.exponent ≠ leastExponent) (hne : b.significand ≠ twoTo 52) :
    (2 : ℚ) ^ (b.exponent + 52) ≤ x := by
  have hs : twoTo 52 + 1 ≤ b.significand := by
    have := hb.2.2.2.resolve_right hleast
    omega
  have hs' : (2 : ℚ) ^ 52 + 1 ≤ b.significand := by
    rw [← cast_twoTo]
    exact_mod_cast hs
  have hroom := b.roomBelow_bounds
  calc (2 : ℚ) ^ (b.exponent + 52) = 2 ^ 52 * 2 ^ b.exponent := by
        rw [zpow_add₀ two_ne_zero, mul_comm]
        norm_num
    _ ≤ (b.significand - b.roomBelow) * 2 ^ b.exponent := by
        gcongr
        linarith
    _ ≤ x := h.low_le

end Binary

/-- The value of a decimal. -/
def Digits.value (d : Digits) : ℚ :=
  d.number * 10 ^ d.exponent

end AnnotatedSql.Decimal
