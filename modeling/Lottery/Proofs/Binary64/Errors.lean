/-
# How far rounding strays

Below `2 ^ 100` the double nearest to a number is no farther from it than `roundoff` times its
size and one (`IsNearest.error_le`); `roundoff` is `2 ^ -53`.  `x.Near q e` says that `x` is
within `e` of `q`.

| double | near | within |
| --- | --- | --- |
| the one nearest to `q` | `q` | `roundoff * (|q| + 1)` |
| `x + y`, of `x` near `p` within `e` and `y` near `q` within `f` | `p + q` | `e + f` and the error of a number of size `|p + q| + e + f` |
| the sum of `n` doubles that are nearest to numbers of sizes `A` altogether | their sum | `roundoff * (A + n * (A + 3))` |

The last row holds as long as that is no more than 1 (`near_sum`): each addition rounds a number
of size `A + 1` at most.
-/

import Lottery.Proofs.Binary64.Nearest
import Mathlib.Algebra.BigOperators.Ring.List

namespace Lottery
namespace Binary64

variable {x y : Binary64} {p q e f : ℚ}

/-- The greatest error of rounding, relative to what is rounded. -/
def roundoff : ℚ :=
  1 / 2 ^ 53

/-- Rounding may err. -/
theorem roundoff_pos : 0 < roundoff := by
  norm_num [roundoff]

/-! ### One rounding -/

/-- **Rounding a fraction of units** moves it by `2 ^ -53` of it or by half a unit. -/
theorem abs_nearestUnits_sub_le (a : Nat) {d : Nat} (hd : 0 < d) :
    |(nearestUnits a d : ℚ) - a / d| ≤ roundoff * (a / d) + 1 / 2 := by
  obtain ⟨s, hs, -, hge⟩ := exists_nearestUnits_eq a d
  have hd' : (0 : ℚ) < d := Nat.cast_pos.2 hd
  have hpow : (0 : ℚ) < 2 ^ s := by positivity
  have hhalf := abs_halfEven_sub_le a (Nat.mul_pos hd (Nat.two_pow_pos s))
  -- What is rounded to is a multiple of `2 ^ s`, so it is off by half of that at most.
  have hgrid : |(nearestUnits a d : ℚ) - a / d| ≤ 2 ^ s / 2 := by
    have hscale : (nearestUnits a d : ℚ) - a / d =
        ((halfEven a (d * 2 ^ s) : ℚ) - a / (d * 2 ^ s : Nat)) * 2 ^ s := by
      rw [hs]
      push_cast
      field_simp
    rw [hscale, abs_mul, abs_of_pos hpow]
    linarith [mul_le_mul_of_nonneg_right hhalf hpow.le]
  have hquotient : (0 : ℚ) ≤ a / d := div_nonneg a.cast_nonneg d.cast_nonneg
  -- A grid that is coarser than the units has 53 digits in front of it, which is where the
  -- relative error comes from.
  rcases Nat.eq_zero_or_pos s with rfl | hpos
  · have := mul_nonneg roundoff_pos.le hquotient
    linarith
  · have hbelow : ((2 ^ (s + 52) : Nat) : ℚ) ≤ a / d :=
      (Nat.cast_le.2 (hge hpos)).trans Nat.cast_div_le
    rw [pow_add] at hbelow
    push_cast at hbelow
    rw [roundoff]
    linarith

/-- What is below `2 ^ 100` is rounded to a double. -/
theorem representable_nearestUnits {a d : Nat} (hd : 0 < d)
    (h : (a : ℚ) / d ≤ 2 ^ 100 * scale) : Representable (nearestUnits a d) := by
  have hlarge : 2 ^ 100 * scale = 1 <<< 1174 := by decide +kernel
  have hle : (a : ℚ) / d ≤ (1 <<< 1174 : Nat) := by
    rw [← hlarge, Nat.cast_mul, Nat.cast_pow]
    exact h
  exact ⟨(nearestUnits_le hd (short_one_shiftLeft 1174) hle).trans_lt (by decide),
    short_nearestUnits a d⟩

/-- A number that is not negative has a number of units near it. -/
theorem exists_units_near {r : ℚ} (hr : 0 ≤ r) (h : r ≤ 2 ^ 100) :
    ∃ u : Nat, Representable u ∧ |(u : ℚ) / scale - r| ≤ roundoff * (r + 1) := by
  have hscale : (0 : ℚ) < scale := Nat.cast_pos.2 scale_pos
  -- Rounding takes a quotient of naturals, so the number of units of `r` is written as one.
  obtain ⟨a, d, hd, ha⟩ : ∃ a d : Nat, 0 < d ∧ (a : ℚ) / d = r * scale := by
    refine ⟨(r * scale).num.natAbs, (r * scale).den, Rat.den_pos _, ?_⟩
    have hnum : 0 ≤ (r * scale).num := Rat.num_nonneg.2 (mul_nonneg hr hscale.le)
    rw [Nat.cast_natAbs, abs_of_nonneg hnum]
    exact Rat.num_div_den _
  have hle : (a : ℚ) / d ≤ 2 ^ 100 * scale := by
    rw [ha]
    exact mul_le_mul_of_nonneg_right h hscale.le
  refine ⟨_, representable_nearestUnits hd hle, ?_⟩
  have herror := abs_nearestUnits_sub_le a hd
  rw [ha] at herror
  -- Half a unit is far below `roundoff`, so it disappears in the summand 1.
  have hunit : 1 / 2 ≤ roundoff * scale := by
    have hlarge : (2 ^ 53 : ℚ) ≤ scale := by
      have hnat : 2 ^ 53 ≤ scale := by decide
      exact_mod_cast hnat
    rw [roundoff]
    linarith
  have hscaled : (nearestUnits a d : ℚ) / scale - r = (nearestUnits a d - r * scale) / scale := by
    rw [sub_div, mul_div_cancel_right₀ _ hscale.ne']
  rw [hscaled, abs_div, abs_of_pos hscale, div_le_iff₀ hscale]
  linarith

/-- A number that is not too large has a double near it. -/
theorem exists_abs_sub_le (hq : |q| ≤ 2 ^ 100) :
    ∃ y : Binary64, y.isFinite = true ∧ |y.value - q| ≤ roundoff * (|q| + 1) := by
  obtain ⟨u, hu, hle⟩ := exists_units_near (abs_nonneg q) hq
  -- The sign is put back on the size, which alone is rounded.
  have hsign : withSign (decide (q < 0)) |q| = q := by
    by_cases h : q < 0
    · simp [withSign, h, abs_of_neg h]
    · simp [withSign, h, abs_of_nonneg (not_lt.1 h)]
  refine ⟨.finite (decide (q < 0)) u hu, rfl, ?_⟩
  rw [← abs_withSign_sub (decide (q < 0)), hsign] at hle
  rw [value_finite]
  exact hle

/-- **The nearest double is within the error of rounding.** -/
theorem IsNearest.error_le (h : x.IsNearest q) (hq : |q| ≤ 2 ^ 100) :
    |x.value - q| ≤ roundoff * (|q| + 1) := by
  obtain ⟨y, hy, hle⟩ := exists_abs_sub_le hq
  exact (h.near y hy).trans hle

/-- A number is not much larger than the double nearest to it. -/
theorem IsNearest.abs_le_of_value (h : x.IsNearest q) (hx : |x.value| ≤ 2 ^ 99) :
    |q| ≤ 2 ^ 100 := by
  by_contra hlt
  rw [not_le] at hlt
  -- A double near `2 ^ 100`, with the sign of the number, would be nearer.
  obtain ⟨b, hb⟩ : ∃ b : ℚ, |b| = 2 ^ 100 ∧ |b - q| = |q| - 2 ^ 100 := by
    rcases le_total 0 q with hq | hq
    · rw [abs_of_nonneg hq] at hlt ⊢
      exact ⟨2 ^ 100, abs_of_pos (by norm_num), by rw [abs_sub_comm, abs_of_pos (by linarith)]⟩
    · rw [abs_of_nonpos hq] at hlt ⊢
      refine ⟨-2 ^ 100, by rw [abs_neg, abs_of_pos (by norm_num)], ?_⟩
      rw [abs_of_pos (by linarith)]
      ring
  obtain ⟨y, hy, hnear⟩ := exists_abs_sub_le hb.1.le
  have hle := (h.near y hy).trans (abs_sub_le y.value b q)
  have hfar := abs_sub_abs_le_abs_sub q x.value
  rw [abs_sub_comm] at hfar
  rw [hb.2] at hle
  rw [hb.1, roundoff] at hnear
  norm_num at hnear hx hlt hle hfar
  linarith

/-- **A double that is not too large is as near to what it is nearest to,** in its own size. -/
theorem IsNearest.error_le_of_value (h : x.IsNearest q) (hx : |x.value| ≤ 2 ^ 50) :
    |x.value - q| ≤ roundoff * (|x.value| + 2) := by
  have hq := h.abs_le_of_value (hx.trans (by norm_num))
  have herror := h.error_le hq
  have hsize := abs_sub_abs_le_abs_sub q x.value
  rw [abs_sub_comm] at hsize
  -- The error is so small that the size of `q` is within 1 of that of the double.
  have hone : |q| + 1 ≤ |x.value| + 2 := by
    rw [roundoff] at herror
    norm_num at herror hx
    linarith
  exact herror.trans (mul_le_mul_of_nonneg_left hone roundoff_pos.le)

/-! ### Sums -/

/-- Zeros of either sign are worth zero. -/
theorem value_zero (negative : Bool) : (zero negative).value = 0 := by
  cases negative <;> simp [zero, value, signed]

/-- A negated double has the opposite value. -/
theorem value_neg (x : Binary64) : x.neg.value = -x.value := by
  cases x with
  | nan | infinite s => exact neg_zero.symm
  | finite s u hu => cases s <;> simp [neg, value, signed, neg_div]

/-- It is finite if the double is. -/
theorem isFinite_neg (x : Binary64) : x.neg.isFinite = x.isFinite := by
  cases x <;> rfl

/-- Zero is the double nearest to zero. -/
theorem isNearest_zero (negative : Bool) : (zero negative).IsNearest 0 where
  isFinite := rfl
  near y _ := by
    rw [value_zero, sub_zero, abs_zero]
    exact abs_nonneg _
  even y _ hne h := by
    rw [value_zero, sub_zero, sub_zero, abs_zero] at h
    rw [value_zero] at hne
    exact absurd (abs_eq_zero.1 h.symm) hne

/-- **A sum is the double nearest to the exact sum.** -/
theorem isNearest_add (hx : x.isFinite = true) (hy : y.isFinite = true)
    (h : |x.value + y.value| ≤ 2 ^ 100) : (x.add y).IsNearest (x.value + y.value) := by
  cases x with
  | nan | infinite s => cases hx
  | finite s u hu =>
    cases y with
    | nan | infinite t => cases hy
    | finite t v hv =>
      have hscale : (0 : ℚ) < scale := Nat.cast_pos.2 scale_pos
      have hsum : (finite s u hu).value + (finite t v hv).value =
          ((signed s u + signed t v : ℤ) : ℚ) / scale := by
        rw [value, value, ← add_div, Int.cast_add]
      rw [hsum] at h ⊢
      rw [add]
      -- Only the exact sum of units matters from here on, not what it is the sum of.
      generalize signed s u + signed t v = k at h ⊢
      split
      · next hzero =>
        rw [hzero, Int.cast_zero, zero_div]
        exact isNearest_zero _
      · have hsize : (k.natAbs : ℚ) / (1 : Nat) ≤ 2 ^ 100 * scale := by
          rw [abs_div, abs_of_pos hscale, div_le_iff₀ hscale] at h
          rw [Nat.cast_one, div_one, Nat.cast_natAbs, Int.cast_abs]
          exact h
        have hnearest := isNearest_round (decide (k < 0)) k.natAbs Nat.one_pos
          (representable_nearestUnits Nat.one_pos hsize).1
        -- Rounding is told the sign and the size apart; together they are the sum again.
        have hvalue : withSign (decide (k < 0)) ((k.natAbs : ℚ) / (1 : Nat) / scale) =
            (k : ℚ) / scale := by
          rw [Nat.cast_one, div_one, Nat.cast_natAbs, Int.cast_abs]
          by_cases hk : k < 0
          · have hk' : (k : ℚ) < 0 := by exact_mod_cast hk
            simp [withSign, hk, abs_of_neg hk', neg_div]
          · have hk' : (0 : ℚ) ≤ k := by exact_mod_cast not_lt.1 hk
            simp [withSign, hk, abs_of_nonneg hk']
        rwa [hvalue] at hnearest

/-- A finite double within `e` of a number. -/
structure Near (x : Binary64) (q e : ℚ) : Prop where
  isFinite : x.isFinite = true
  abs_le : |x.value - q| ≤ e

/-- The nearest double is near, by the roundoff of the number and of 1. -/
theorem IsNearest.near_of_le (h : x.IsNearest q) (hq : |q| ≤ 2 ^ 100) :
    x.Near q (roundoff * (|q| + 1)) :=
  ⟨h.isFinite, h.error_le hq⟩

namespace Near

/-- What is near is also near with a greater error. -/
theorem mono (h : x.Near q e) (hef : e ≤ f) : x.Near q f :=
  ⟨h.isFinite, h.abs_le.trans hef⟩

/-- An error is not negative, since it bounds a distance. -/
theorem nonneg (h : x.Near q e) : 0 ≤ e :=
  (abs_nonneg _).trans h.abs_le

/-- A double that is near is not much greater. -/
theorem abs_value_le (h : x.Near q e) : |x.value| ≤ |q| + e := by
  have := abs_sub_abs_le_abs_sub x.value q
  linarith [h.abs_le]

/-- Negation errs by nothing. -/
theorem neg (h : x.Near q e) : x.neg.Near (-q) e where
  isFinite := (isFinite_neg x).trans h.isFinite
  abs_le := by
    rw [value_neg, neg_sub_neg, abs_sub_comm]
    exact h.abs_le

/-- **An addition adds the errors,** and one rounding. -/
theorem add (hx : x.Near p e) (hy : y.Near q f) (h : |p + q| + e + f ≤ 2 ^ 100) :
    (x.add y).Near (p + q) (e + f + roundoff * (|p + q| + e + f + 1)) := by
  -- The errors of the summands add up, and only then is the sum rounded once more.
  have hsum : |x.value + y.value - (p + q)| ≤ e + f := by
    have heq : x.value + y.value - (p + q) = (x.value - p) + (y.value - q) := by ring
    rw [heq]
    exact (abs_add_le _ _).trans (add_le_add hx.abs_le hy.abs_le)
  have hsize : |x.value + y.value| ≤ |p + q| + e + f := by
    linarith [abs_sub_abs_le_abs_sub (x.value + y.value) (p + q)]
  have hnearest := isNearest_add hx.isFinite hy.isFinite (hsize.trans h)
  refine ⟨hnearest.isFinite, ?_⟩
  have hround := hnearest.error_le (hsize.trans h)
  have htriangle := abs_sub_le (x.add y).value (x.value + y.value) (p + q)
  have hscaled : roundoff * (|x.value + y.value| + 1) ≤ roundoff * (|p + q| + e + f + 1) :=
    mul_le_mul_of_nonneg_left (by linarith) roundoff_pos.le
  linarith

/-- Subtraction adds the errors of both sides, and one of its own. -/
theorem sub (hx : x.Near p e) (hy : y.Near q f) (h : |p - q| + e + f ≤ 2 ^ 100) :
    (x.sub y).Near (p - q) (e + f + roundoff * (|p - q| + e + f + 1)) := by
  rw [sub_eq_add_neg] at h ⊢
  exact hx.add hy.neg h

end Near

/-- One more addition to a running sum, the sizes of all that is added being `A` at most. -/
theorem Near.add_step {A : ℚ} (hx : x.Near p e) (hy : y.Near q (roundoff * (|q| + 1)))
    (hsize : |p + q| ≤ A) (hA : A ≤ 2 ^ 99) (he : e + roundoff * (|q| + 1) ≤ 1) :
    (x.add y).Near (p + q) (e + roundoff * (|q| + (A + 3))) := by
  have hbound : |p + q| + e + roundoff * (|q| + 1) ≤ 2 ^ 100 := by
    have : (2 : ℚ) ^ 100 = 2 * 2 ^ 99 := by norm_num
    linarith [one_le_pow₀ (show (1 : ℚ) ≤ 2 by norm_num) (n := 99)]
  refine (hx.add hy hbound).mono ?_
  have hscaled : roundoff * (|p + q| + e + roundoff * (|q| + 1) + 1) ≤ roundoff * (A + 2) :=
    mul_le_mul_of_nonneg_left (by linarith) roundoff_pos.le
  linarith

/-- **The run of a sum** from `x` near `p`: every term brings the error of its own rounding and of
its addition. -/
theorem Near.foldl_add {A : ℚ} {q : Binary64 → ℚ} {xs : List Binary64} (hA : A ≤ 2 ^ 99)
    (hq : ∀ y ∈ xs, y.Near (q y) (roundoff * (|q y| + 1))) (hx : x.Near p e)
    (hsize : |p| + (xs.map fun y => |q y|).sum ≤ A)
    (he : e + (xs.map fun y => roundoff * (|q y| + (A + 3))).sum ≤ 1) :
    (xs.foldl Binary64.add x).Near (p + (xs.map q).sum)
      (e + (xs.map fun y => roundoff * (|q y| + (A + 3))).sum) := by
  -- The value reached so far and its error are those of a start, so both vary in the induction.
  induction xs generalizing x p e with
  | nil => simpa using hx
  | cons y xs ih =>
    rw [List.map_cons, List.sum_cons] at hsize he
    have hrest : 0 ≤ (xs.map fun y => |q y|).sum :=
      List.sum_nonneg fun r hr => by
        obtain ⟨z, -, rfl⟩ := List.mem_map.1 hr
        exact abs_nonneg _
    have hA0 : 0 ≤ A := by linarith [abs_nonneg p, abs_nonneg (q y)]
    have hcosts : 0 ≤ (xs.map fun y => roundoff * (|q y| + (A + 3))).sum :=
      List.sum_nonneg fun r hr => by
        obtain ⟨z, -, rfl⟩ := List.mem_map.1 hr
        exact mul_nonneg roundoff_pos.le (by linarith [abs_nonneg (q z)])
    have hpq := abs_add_le p (q y)
    have hcost : roundoff * (|q y| + 1) ≤ roundoff * (|q y| + (A + 3)) :=
      mul_le_mul_of_nonneg_left (by linarith) roundoff_pos.le
    -- The size stays below `A` and the error below 1, so one more step costs no more than its
    -- share.
    have hstep := hx.add_step (hq y List.mem_cons_self) (by linarith : |p + q y| ≤ A) hA
      (by linarith)
    have hrun := ih (fun z hz => hq z (List.mem_cons_of_mem y hz)) hstep (by linarith) (by linarith)
    rw [List.foldl_cons, List.map_cons, List.sum_cons, List.map_cons, List.sum_cons, ← add_assoc,
      ← add_assoc]
    exact hrun

/-- **A sum of doubles** is near the exact sum of what they are nearest to. -/
theorem near_sum {q : Binary64 → ℚ} {xs : List Binary64}
    (hq : ∀ y ∈ xs, y.Near (q y) (roundoff * (|q y| + 1)))
    (hsize : (xs.map fun y => |q y|).sum ≤ 2 ^ 99)
    (he : roundoff * ((xs.map fun y => |q y|).sum +
      xs.length * ((xs.map fun y => |q y|).sum + 3)) ≤ 1) :
    (sum xs).Near (xs.map q).sum (roundoff * ((xs.map fun y => |q y|).sum +
      xs.length * ((xs.map fun y => |q y|).sum + 3))) := by
  generalize hA : (xs.map fun y => |q y|).sum = A at hsize he ⊢
  -- What the single steps cost adds up to the bound of the statement.
  have hcosts : (xs.map fun y => roundoff * (|q y| + (A + 3))).sum =
      roundoff * (A + xs.length * (A + 3)) := by
    rw [List.sum_map_mul_left, List.sum_map_add, hA, List.map_const', List.sum_replicate,
      nsmul_eq_mul]
  have hzero : (zero false).Near 0 0 := ⟨rfl, by rw [value_zero, sub_zero, abs_zero]⟩
  have hrun := hzero.foldl_add hsize hq (by rw [abs_zero, zero_add, hA])
    (by rwa [zero_add, hcosts])
  rwa [zero_add, zero_add, hcosts] at hrun

end Binary64
end Lottery
