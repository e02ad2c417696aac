/-
# Amounts that are too large

A number of more than 4300 digits is `10 ^ 4300` or more (`Text.isLong_iff`), and
no finite double is as large (`Text.isLong_eq_false_of_isFinite`).  An amount of
money is its decimal in whole cents, a half up, of no more than 28 digits (`cents?_eq`),
so it is too large exactly if that is `10 ^ 28` or more (`ofDecimal_eq_error_iff`).
-/

import Lottery.Money
import Lottery.Proofs.Binary64.Integers
import Mathlib.Algebra.Order.Floor.Semifield
import Mathlib.Data.Rat.Floor

namespace Lottery

namespace Text

variable {n : Nat}

/-- A number is long from the power of ten on that has one digit too many. -/
theorem isLong_iff : isLong n = true ↔ 10 ^ maxDigits ≤ n := by
  rw [isLong, decide_eq_true_iff, ← Nat.not_le, digitCount_le_iff (by decide), Nat.not_lt]

/-- What is at least as large as a long number is long. -/
theorem isLong_of_le {m : Nat} (hmn : m ≤ n) (h : isLong m = true) : isLong n = true :=
  isLong_iff.2 ((isLong_iff.1 h).trans hmn)

/-- No double is as large as a long number. -/
theorem isLong_eq_false_of_isFinite (h : (Binary64.ofInt n).isFinite = true) :
    isLong n = false := by
  have hbound : Binary64.overflow ≤ 10 ^ maxDigits := by decide +kernel
  rw [Bool.eq_false_iff, Ne, isLong_iff, Nat.not_le]
  exact (Binary64.isFinite_ofInt_iff.1 h).trans_le hbound

end Text

namespace Decimal

/-- The size of a decimal in hundredths. -/
def hundredths (d : Decimal) : ℚ :=
  d.coefficient * 10 ^ (d.exponent + 2)

variable {d : Decimal}

/-- The hundredths of a decimal are a hundred times its size. -/
theorem hundredths_eq (d : Decimal) : d.hundredths = d.size * 100 := by
  rw [hundredths, size, zpow_add₀ (by norm_num)]
  norm_num
  ring

/-- A decimal is below the power of ten that its point shows. -/
theorem hundredths_lt (d : Decimal) : d.hundredths < 10 ^ (d.pointPlace + 2) := by
  rw [hundredths_eq, zpow_add₀ (by norm_num)]
  exact mul_lt_mul_of_pos_right d.size_lt (by norm_num)

/-- It is not below the power before, unless it is zero. -/
theorem le_hundredths (h : d.coefficient ≠ 0) : (10 : ℚ) ^ (d.pointPlace + 1) ≤ d.hundredths := by
  rw [hundredths_eq, show d.pointPlace + 1 = d.pointPlace - 1 + 2 by ring, zpow_add₀ (by norm_num)]
  exact mul_le_mul_of_nonneg_right (le_size h) (by norm_num)

/-- A decimal in whole hundredths, a half upwards. -/
def halfUp (d : Decimal) : Nat :=
  ⌊d.hundredths + 1 / 2⌋₊

/-- They are not below zero. -/
theorem hundredths_nonneg (d : Decimal) : 0 ≤ d.hundredths :=
  mul_nonneg d.coefficient.cast_nonneg (zpow_nonneg (by norm_num) _)

/-- It reaches a whole number if it is no more than a half below. -/
theorem le_halfUp_iff (d : Decimal) (n : Nat) : n ≤ d.halfUp ↔ (n : ℚ) - 1 / 2 ≤ d.hundredths := by
  have hnonneg := d.hundredths_nonneg
  rw [halfUp, Nat.le_floor_iff (by linarith), sub_le_iff_le_add]

/-- Zero is rounded to zero. -/
theorem halfUp_eq_zero_of_coefficient (h : d.coefficient = 0) : d.halfUp = 0 := by
  rw [halfUp, hundredths, h, Nat.floor_eq_zero]
  norm_num

/-- Less than a tenth of a hundredth is rounded away. -/
theorem halfUp_eq_zero_of_pointPlace (h : d.pointPlace + 2 < 0) : d.halfUp = 0 := by
  rw [halfUp, Nat.floor_eq_zero]
  calc d.hundredths + 1 / 2 < 10 ^ (d.pointPlace + 2) + 1 / 2 := by
        gcongr
        exact hundredths_lt d
    _ ≤ 10 ^ (-1 : Int) + 1 / 2 := by
        gcongr
        · norm_num
        · omega
    _ < 1 := by norm_num

/-- Where the point stands far enough to the right, there are more than 28 digits in cents. -/
theorem le_halfUp_of_pointPlace (hne : d.coefficient ≠ 0) (h : 28 < d.pointPlace + 2) :
    10 ^ 28 ≤ d.halfUp := by
  have hplace : (28 : Int) ≤ d.pointPlace + 1 := by omega
  refine (d.le_halfUp_iff (10 ^ 28)).2 ?_
  calc ((10 ^ 28 : Nat) : ℚ) - 1 / 2 ≤ 10 ^ (28 : Int) := by norm_num
    _ ≤ 10 ^ (d.pointPlace + 1) := zpow_le_zpow_right₀ (by norm_num) hplace
    _ ≤ d.hundredths := le_hundredths hne

/-- On whole numbers: the coefficient with zeros behind it, or divided to the nearest. -/
theorem units_eq_halfUp (d : Decimal) :
    (match d.exponent + 2 with
      | .ofNat k => d.coefficient * Nat.pow 10 k
      | .negSucc k => (2 * d.coefficient + Nat.pow 10 (k + 1)) / (2 * Nat.pow 10 (k + 1))) =
      d.halfUp := by
  rw [halfUp, hundredths]
  -- Shifted by two places the exponent is a whole power of ten or a fraction, and a half is added
  -- before the division.
  cases d.exponent + 2 with
  | ofNat k =>
    show d.coefficient * 10 ^ k = _
    rw [eq_comm, Nat.floor_eq_iff (by positivity), Int.ofNat_eq_natCast, zpow_natCast]
    push_cast
    constructor <;> linarith
  | negSucc k =>
    show (2 * d.coefficient + 10 ^ (k + 1)) / (2 * 10 ^ (k + 1)) = _
    rw [← Nat.floor_div_eq_div (K := ℚ), zpow_negSucc]
    congr 1
    push_cast
    field_simp

end Decimal

/-- A double whose decimal rounds to `10 ^ 28` cents or more, in either direction. -/
def Binary64.IsBeyondCents (x : Binary64) : Prop :=
  ∃ d, x.shortest? = some d ∧ 10 ^ 28 - 1 / 2 ≤ d.hundredths

namespace Money

/-- **An amount is the nearest whole number of cents,** a half upwards, of at most 28 digits. -/
theorem cents?_eq (d : Decimal) :
    cents? d = if 10 ^ 28 ≤ d.halfUp then none else some d.halfUp := by
  -- The shortcuts for zero, for very large and for very small decimals come first.
  unfold cents?
  split
  · next hzero =>
    rw [Decimal.halfUp_eq_zero_of_coefficient hzero, if_neg (by decide)]
  split
  · next hne hlarge => rw [if_pos (Decimal.le_halfUp_of_pointPlace hne hlarge)]
  split
  · next hsmall => rw [Decimal.halfUp_eq_zero_of_pointPlace hsmall, if_neg (by decide)]
  · have hunits : ∀ n, n = d.halfUp → (if Nat.pow 10 maxDigits ≤ n then none else some n) =
        if 10 ^ 28 ≤ d.halfUp then none else some d.halfUp := by
      rintro n rfl
      rfl
    exact hunits _ d.units_eq_halfUp

/-- **A decimal is rounded to the double of its whole cents,** if these are below `10 ^ 28`. -/
theorem ofDecimal_eq_ok_iff {d : Decimal} {y : Binary64} :
    ofDecimal d = .ok y ↔ d.halfUp < 10 ^ 28 ∧ .ofHundredths d.negative d.halfUp = y := by
  rw [ofDecimal, cents?_eq, ← not_le]
  by_cases h : 10 ^ 28 ≤ d.halfUp
  · rw [if_pos h]
    exact iff_of_false (fun heq => by cases heq) fun hlt => hlt.1 h
  · rw [if_neg h, and_iff_right h]
    exact (Except.ok.injEq ..).to_iff

/-- Otherwise it is too large for an amount. -/
theorem ofDecimal_eq_error_iff {d : Decimal} {f : Fault} :
    ofDecimal d = .error f ↔ f = .beyondCents ∧ 10 ^ 28 ≤ d.halfUp := by
  rw [ofDecimal, cents?_eq]
  by_cases h : 10 ^ 28 ≤ d.halfUp
  · rw [if_pos h, and_iff_left h, eq_comm]
    exact (Except.error.injEq ..).to_iff
  · rw [if_neg h]
    exact iff_of_false (fun heq => by cases heq) fun hle => h hle.2

/-- An amount that is rounded to cents fails if it has more than 28 digits in cents. -/
theorem ofDouble_eq_error_iff {x : Binary64} {f : Fault} :
    ofDouble x = .error f ↔ f = .beyondCents ∧ x.IsBeyondCents := by
  unfold ofDouble Binary64.IsBeyondCents
  cases x.shortest? with
  | none => simp
  | some d =>
    have hcast : ((10 ^ 28 : Nat) : ℚ) = 10 ^ 28 := by norm_cast
    dsimp only
    rw [ofDecimal_eq_error_iff, d.le_halfUp_iff, hcast]
    simp

/-- Zero is zero cents. -/
theorem ofDouble_zero : ofDouble (.zero false) = .ok (.zero false) :=
  rfl

/-- So it is not beyond cents. -/
theorem not_isBeyondCents_zero : ¬(Binary64.zero false).IsBeyondCents := fun h =>
  nomatch ofDouble_zero.symm.trans (ofDouble_eq_error_iff.2 ⟨rfl, h⟩)

end Money
end Lottery
