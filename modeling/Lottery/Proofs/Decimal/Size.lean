/-
# The size of a decimal

A number is below ten to the number of its digits, and not below the power
before (`Text.lt_pow_digitCount`, `Text.pow_le_of_lt_digitCount`).  So the place of
its point bounds the size of a decimal on either side (`size_lt`, `le_size`).
-/

import Lottery.Decimal
import Mathlib.Algebra.Order.Field.Power
import Mathlib.Data.Rat.Cast.Order
import Mathlib.Tactic.Linarith
import Mathlib.Tactic.NormNum
import Mathlib.Tactic.Positivity
import Mathlib.Tactic.Ring

namespace Lottery

namespace Text

variable {n k : Nat}

/-- A number has at most `k` digits exactly if it is below `10 ^ k`. -/
theorem digitCount_le_iff (hk : 0 < k) : digitCount n ≤ k ↔ n < 10 ^ k :=
  Nat.length_toDigits_le_iff (by decide) hk

/-- It is below ten to the number of its digits, -/
theorem lt_pow_digitCount (n : Nat) : n < 10 ^ digitCount n :=
  (digitCount_le_iff Nat.length_toDigits_pos).1 (Nat.le_refl _)

/-- and not below ten to any smaller number. -/
theorem pow_le_of_lt_digitCount (hn : n ≠ 0) (h : k < digitCount n) : 10 ^ k ≤ n := by
  rcases Nat.eq_zero_or_pos k with rfl | hk
  · exact Nat.pos_of_ne_zero hn
  · exact Nat.le_of_not_lt fun hlt => Nat.not_le_of_lt h ((digitCount_le_iff hk).2 hlt)

/-- The place of the leading digit, as a power of ten. -/
theorem pow_digitCount_sub_one_le (hn : n ≠ 0) : (10 : ℚ) ^ ((digitCount n : Int) - 1) ≤ n := by
  have hpos : 0 < digitCount n := Nat.length_toDigits_pos
  have hle := pow_le_of_lt_digitCount hn (Nat.sub_one_lt_of_lt hpos)
  rw [show ((digitCount n : Int) - 1) = ((digitCount n - 1 : Nat) : Int) by omega]
  exact_mod_cast hle

end Text

/-- A number with a sign. -/
def withSign (negative : Bool) (q : ℚ) : ℚ :=
  if negative then -q else q

/-- A sign does not change the size. -/
theorem abs_withSign (negative : Bool) (q : ℚ) : |withSign negative q| = |q| := by
  cases negative
  · rfl
  · exact abs_neg q

/-- Nor does one on both sides change a distance. -/
theorem abs_withSign_sub (negative : Bool) (p q : ℚ) :
    |withSign negative p - withSign negative q| = |p - q| := by
  cases negative
  · rfl
  · rw [withSign, withSign, if_pos rfl, if_pos rfl, neg_sub_neg, abs_sub_comm]

namespace Decimal

variable {d : Decimal}

/-- The number that a decimal is, its sign aside. -/
def size (d : Decimal) : ℚ :=
  d.coefficient * 10 ^ d.exponent

/-- The number that a decimal is. -/
def value (d : Decimal) : ℚ :=
  withSign d.negative d.size

/-- The size of a decimal is not below zero. -/
theorem size_nonneg (d : Decimal) : 0 ≤ d.size :=
  mul_nonneg d.coefficient.cast_nonneg (zpow_nonneg (by norm_num) _)

/-- A decimal is below the power of ten that its point shows. -/
theorem size_lt (d : Decimal) : d.size < 10 ^ d.pointPlace := by
  have h : (d.coefficient : ℚ) < 10 ^ (Text.digitCount d.coefficient : Int) := by
    exact_mod_cast Text.lt_pow_digitCount d.coefficient
  rw [size, pointPlace, zpow_add₀ (by norm_num)]
  exact mul_lt_mul_of_pos_right h (zpow_pos (by norm_num) _)

/-- It is not below the power before, unless it is zero. -/
theorem le_size (h : d.coefficient ≠ 0) : (10 : ℚ) ^ (d.pointPlace - 1) ≤ d.size := by
  rw [size, pointPlace, show (Text.digitCount d.coefficient : Int) + d.exponent - 1 =
    ((Text.digitCount d.coefficient : Int) - 1) + d.exponent by ring, zpow_add₀ (by norm_num)]
  exact mul_le_mul_of_nonneg_right (Text.pow_digitCount_sub_one_le h)
    (zpow_nonneg (by norm_num) _)

/-- It is zero if its coefficient is. -/
theorem size_eq_zero_iff : d.size = 0 ↔ d.coefficient = 0 := by
  rw [size, mul_eq_zero, or_iff_left (zpow_ne_zero _ (by norm_num)), Nat.cast_eq_zero]

end Decimal
end Lottery
