/-
# Rounding an amount twice

| an amount after the first rounding | after the second |
| --- | --- |
| `bound` or `-bound`, the double nearest to `10 ^ 26` | beyond cents |
| any other double | the same |

The shortest decimal of an amount in cents has no more than two places
(`exists_shortest?_ofHundredths`), so it is a whole number of cents, and these are
rounded to the double that they were read from (`ofHundredths_halfUp`).

They need not be the cents that were rounded first.  The double nearest to `10 ^ 26` is
also nearest to some amounts below, which are within 28 digits of cents; its own
shortest decimal is `10 ^ 26`, which is not.  A double is no such amount, so that
doubles can be rounded any number of times.

Both roundings are `round_money`, the second one of what the first one gives.
-/

import Lottery.Proofs.Binary64.Sums
import Lottery.Proofs.Money.HalfUp

namespace Lottery
namespace Money

open Binary64 (ofHundredths nearestUnits scale)

variable {d : Decimal} {m n : Nat} {negative : Bool}

/-- Without a third place the hundredths are whole. -/
theorem hundredths_eq_halfUp (h : -2 ≤ d.exponent) : d.hundredths = d.halfUp := by
  obtain ⟨k, hk⟩ := Int.eq_ofNat_of_zero_le (show 0 ≤ d.exponent + 2 by omega)
  have hwhole : d.hundredths = (d.coefficient * 10 ^ k : Nat) := by
    rw [Decimal.hundredths, hk, zpow_natCast]
    push_cast
    rfl
  have hhalf : d.halfUp = d.coefficient * 10 ^ k := by
    rw [Decimal.halfUp, hwhole, Nat.floor_eq_iff (by positivity)]
    constructor <;> linarith
  rw [hwhole, hhalf]

/-- **A decimal without a third place is rounded to the double of its hundredths.** -/
theorem ofHundredths_halfUp (h : -2 ≤ d.exponent) :
    ofHundredths d.negative d.halfUp = Binary64.ofDecimal d := by
  have hunits : ((d.halfUp <<< 1074 : Nat) : ℚ) / (100 : Nat) = d.size * scale := by
    rw [hundredths_units, ← hundredths_eq_halfUp h, Decimal.hundredths_eq,
      mul_div_cancel_right₀ _ (by norm_num)]
  exact (Binary64.ofDecimal_eq_round d (by decide) hunits).symm

/-- A decimal with two digits after the point is the double nearest to its hundredths. -/
theorem ofDecimal_hundredths (negative : Bool) (n : Nat) :
    Binary64.ofDecimal ⟨negative, n, -2⟩ = ofHundredths negative n := by
  have hhalf : (⟨negative, n, -2⟩ : Decimal).halfUp = n := by
    have h := hundredths_eq_halfUp (d := ⟨negative, n, -2⟩) le_rfl
    rw [Decimal.hundredths] at h
    dsimp only at h
    rw [neg_add_cancel, zpow_zero, mul_one] at h
    exact_mod_cast h.symm
  rw [← ofHundredths_halfUp le_rfl, hhalf]

/-- More hundredths are not rounded to less. -/
theorem nearestUnits_hundredths_le (h : m ≤ n) :
    nearestUnits (m <<< 1074) 100 ≤ nearestUnits (n <<< 1074) 100 := by
  have hscale : m * scale ≤ n * scale := Nat.mul_le_mul_right _ h
  rw [← Binary64.shiftLeft_eq_mul_scale, ← Binary64.shiftLeft_eq_mul_scale] at hscale
  exact Binary64.nearestUnits_mono (by decide) (by decide)
    (div_le_div_of_nonneg_right (Nat.cast_le.2 hscale) (Nat.cast_nonneg _))

/-- No hundredths are zero. -/
theorem ofHundredths_zero (negative : Bool) : ofHundredths negative 0 = .zero negative := by
  rw [ofHundredths, Nat.zero_shiftLeft, Binary64.round_zero]

/-- A cent is not rounded to less than a cent. -/
theorem scale_le_hundredths (hn : n ≠ 0) : scale ≤ 100 * nearestUnits (n <<< 1074) 100 := by
  have hone : scale ≤ 100 * nearestUnits (1 <<< 1074) 100 := by decide +kernel
  have hle := nearestUnits_hundredths_le (Nat.pos_of_ne_zero hn)
  exact hone.trans (Nat.mul_le_mul_left 100 hle)

/-- **The shortest decimal of an amount in cents has no third place.** -/
theorem exists_shortest?_ofHundredths (negative : Bool) (hn : n < 10 ^ 28) :
    ∃ d, (ofHundredths negative n).shortest? = some d ∧ -2 ≤ d.exponent ∧ d.negative = negative ∧
      Binary64.ofDecimal d = ofHundredths negative n := by
  rcases Nat.eq_zero_or_pos n with rfl | hpos
  · rw [ofHundredths_zero]
    exact ⟨⟨negative, 0, 0⟩, rfl, neg_nonpos.2 zero_le_two, rfl, rfl⟩
  · have hu := representable_hundredths hn
    have hle := scale_le_hundredths hpos.ne'
    have hfinite : ofHundredths negative n = .finite negative _ hu := dif_pos hu
    -- At least one cent is left in the double, so it is not zero.
    have hne : nearestUnits (n <<< 1074) 100 ≠ 0 := by
      intro hzero
      rw [hzero] at hle
      exact absurd Binary64.scale_pos (Nat.not_lt.2 hle)
    obtain ⟨d, hd, hshortest⟩ := Binary64.isShortest_shortest? negative hu hne
    rw [hfinite]
    refine ⟨d, hd, hshortest.le_exponent ⟨negative, n, -2⟩ ?_ ?_, hshortest.negative_eq,
      hshortest.rounds⟩
    · rw [ofDecimal_hundredths, hfinite]
    · -- Below one cent in the leading place it would be less than a cent.
      obtain ⟨-, hlt⟩ := Binary64.leadingPlace_spec hne
      by_contra hplace
      have hten : (10 : ℚ) ^ (Binary64.leadingPlace (nearestUnits (n <<< 1074) 100) + 1) ≤
          10 ^ (-2 : Int) := zpow_le_zpow_right₀ (by norm_num) (by dsimp only at hplace; omega)
      have hcent : (scale : ℚ) ≤ (100 : ℚ) * nearestUnits (n <<< 1074) 100 := by
        exact_mod_cast hle
      have hlt' := hlt.trans_le (mul_le_mul_of_nonneg_right hten scale.cast_nonneg)
      norm_num at hlt'
      linarith

/-! ### The bound -/

/-- The double nearest to `10 ^ 26`, of either sign. -/
def bound (negative : Bool) : Binary64 :=
  ofHundredths negative (10 ^ 28)

/-- An amount within 28 digits of cents that has the double of one beyond them has that of the
bound. -/
theorem eq_bound (hm : m < 10 ^ 28) (hn : 10 ^ 28 ≤ n)
    (h : ofHundredths negative m = ofHundredths negative n) :
    ofHundredths negative m = bound negative := by
  have hu := representable_hundredths hm
  have hfinite : ofHundredths negative m = .finite negative _ hu := dif_pos hu
  have hsame : nearestUnits (n <<< 1074) 100 = nearestUnits (m <<< 1074) 100 := by
    rw [hfinite, ofHundredths, Binary64.round_eq] at h
    split at h
    · exact ((Binary64.finite.injEq ..).mp h).2.symm
    · cases h
  -- The bound stands between the two.
  have hbetween : nearestUnits ((10 ^ 28) <<< 1074) 100 = nearestUnits (m <<< 1074) 100 :=
    le_antisymm ((nearestUnits_hundredths_le hn).trans hsame.le) (nearestUnits_hundredths_le hm.le)
  rw [bound, ofHundredths, ofHundredths, Binary64.round_eq, Binary64.round_eq]
  simp only [hbetween]

/-- **The least double beyond cents cannot be rounded.** -/
theorem ofDouble_bound (negative : Bool) :
    ofDouble (bound negative) = .error .beyondCents := by
  cases negative <;> decide +kernel

/-- An amount in cents is rounded to itself, unless it is the bound. -/
theorem ofDouble_ofHundredths (hn : n < 10 ^ 28) (hne : ofHundredths negative n ≠ bound negative) :
    ofDouble (ofHundredths negative n) = .ok (ofHundredths negative n) := by
  obtain ⟨d, hd, hexponent, rfl, hround⟩ := exists_shortest?_ofHundredths negative hn
  have hsame := ofHundredths_halfUp hexponent
  rw [hround] at hsame
  have hlt : d.halfUp < 10 ^ 28 := not_le.1 fun hle => hne (eq_bound hn hle hsame.symm)
  rw [ofDouble, hd]
  exact ofDecimal_eq_ok_iff.2 ⟨hlt, hsame⟩

/-- What is rounded to cents is an amount in cents. -/
theorem exists_ofHundredths {v : Value} {y : Binary64} (h : round v = .ok y) :
    ∃ negative n, n < 10 ^ 28 ∧ y = ofHundredths negative n := by
  have hzero : Except.ok (.zero false) = (.ok y : Except Fault Binary64) →
      ∃ negative n, n < 10 ^ 28 ∧ y = ofHundredths negative n := fun h =>
    ⟨false, 0, by decide, (Except.ok.inj h).symm.trans (ofHundredths_zero false).symm⟩
  -- Whatever is rounded, it is a decimal, or the answer is zero.
  have hdecimal : ∀ d, ofDecimal d = .ok y →
      ∃ negative n, n < 10 ^ 28 ∧ y = ofHundredths negative n := by
    intro d hd
    obtain ⟨hlt, rfl⟩ := ofDecimal_eq_ok_iff.1 hd
    exact ⟨d.negative, d.halfUp, hlt, rfl⟩
  cases v with
  | null | bool b | list vs | object fields => exact hzero h
  | real x =>
    rw [round, ofDouble] at h
    split at h
    · exact hdecimal _ h
    · exact hzero h
  | int n =>
    rw [round] at h
    split at h
    · exact hzero h
    · exact hdecimal _ h
  | text s =>
    rw [round] at h
    split at h
    · exact hdecimal _ h
    · exact hzero h

/-- An amount of no more than `10 ^ 16` cents is not the bound. -/
theorem ne_bound (hn : n ≤ 10 ^ 16) (negative' : Bool) :
    ofHundredths negative n ≠ bound negative' := by
  have hu := representable_hundredths (hn.trans_lt (by decide))
  have hfinite : ofHundredths negative n = .finite negative _ hu := dif_pos hu
  have hlt : nearestUnits ((10 ^ 16) <<< 1074) 100 < nearestUnits ((10 ^ 28) <<< 1074) 100 := by
    decide +kernel
  have hle := (nearestUnits_hundredths_le hn).trans_lt hlt
  intro h
  rw [hfinite, bound, ofHundredths, Binary64.round_eq] at h
  -- Rounding keeps order, so the double stays below the bound.
  split at h
  · exact hle.ne ((Binary64.finite.injEq ..).mp h).2
  · cases h

/-- **A double is rounded to itself,** or to an amount that is not the bound: one with a third place
is no greater than `10 ^ 14`. -/
theorem ofDouble_eq_self_or_ne {x y : Binary64} (h : ofDouble x = .ok y) :
    y = x ∨ ∀ negative, y ≠ bound negative := by
  by_cases hx : x.isFinite = true
  · obtain ⟨d, hd, hround, hcoefficient, -⟩ := Binary64.exists_shortest?_of_isFinite hx
    rw [ofDouble, hd] at h
    obtain ⟨-, rfl⟩ := ofDecimal_eq_ok_iff.1 h
    -- A decimal with no more than two places is whole cents already, and is left alone.
    by_cases hexponent : -2 ≤ d.exponent
    · exact .inl ((ofHundredths_halfUp hexponent).trans hround)
    · refine .inr fun negative => ne_bound ?_ negative
      -- With three places or more it has no more than `10 ^ 16` hundredths, far from the bound.
      have hpower : (10 : ℚ) ^ (d.exponent + 2) ≤ 10 ^ (-1 : Int) :=
        zpow_le_zpow_right₀ (by norm_num) (by omega)
      have hle : d.hundredths ≤ 10 ^ 17 * 10 ^ (-1 : Int) := by
        rw [Decimal.hundredths]
        gcongr
        exact_mod_cast hcoefficient
      refine Nat.lt_succ_iff.1 ((Nat.floor_lt (by linarith [d.hundredths_nonneg])).2 ?_)
      norm_num at hle ⊢
      linarith
  · refine .inr fun negative => ?_
    have hzero : y = ofHundredths false 0 := by
      rw [ofHundredths_zero]
      cases x with
      | nan => exact (Except.ok.inj h).symm
      | infinite negative => exact (Except.ok.inj h).symm
      | finite => exact absurd rfl hx
    rw [hzero]
    exact ne_bound (Nat.zero_le _) negative

/-- **Rounding twice is rounding once, but for the bound.**  The double that an amount is rounded to
is rounded to itself exactly if it is not the double nearest to `10 ^ 26`, of either sign, and that
one is beyond cents.  No double is rounded to it. -/
theorem round_round {v : Value} {y : Binary64} (h : round v = .ok y) :
    (round (.real y) = .ok y ↔ ∀ negative, y ≠ bound negative) ∧
    (round (.real y) = .error .beyondCents ↔ ∃ negative, y = bound negative) ∧
    ∀ x, v = .real x → round (.real y) = .ok y := by
  -- Either the first result is the bound, which fails, or it is whole cents, which stay.
  have hbound : ∀ negative, y = bound negative → round (.real y) = .error .beyondCents := by
    intro negative heq
    rw [heq]
    exact ofDouble_bound negative
  have hother : (∀ negative, y ≠ bound negative) → round (.real y) = .ok y := by
    intro hne
    obtain ⟨negative, n, hn, rfl⟩ := exists_ofHundredths h
    exact ofDouble_ofHundredths hn (hne negative)
  refine ⟨⟨fun hok negative heq => ?_, hother⟩, ⟨fun herror => ?_, fun ⟨negative, heq⟩ => ?_⟩, ?_⟩
  · rw [hbound negative heq] at hok
    cases hok
  · by_contra hne
    rw [hother (not_exists.1 hne)] at herror
    cases herror
  · exact hbound negative heq
  · rintro x rfl
    rcases ofDouble_eq_self_or_ne h with rfl | hne
    · exact h
    · exact hother hne

/-- Rounded from a text with a half of a cent, `0.285` is the double of `0.29`, and stays it. -/
theorem round_round_half : round (.text "0.285") = .ok (ofHundredths false 29) ∧
    round (.real (ofHundredths false 29)) = .ok (ofHundredths false 29) := by
  have h : round (.text "0.285") = .ok (ofHundredths false 29) := by decide +kernel
  have hne : ∀ negative, ofHundredths false 29 ≠ bound negative :=
    ne_bound (Nat.le_of_ble_eq_true rfl)
  exact ⟨h, (round_round h).1.2 hne⟩

/-- One below `10 ^ 26` is rounded to the bound, which cannot be rounded again. -/
theorem round_bound : round (.int (10 ^ 26 - 1)) = .ok (bound false) ∧
    round (.real (bound false)) = .error .beyondCents :=
  ⟨by decide +kernel, ofDouble_bound false⟩

end Money
end Lottery
