/-
# Doubles that stand for whole cents

An amount in cents is kept as the double nearest to it (`IsCents`).  Two doubles for the same
cents are equal as numbers, zeros of both signs included (`IsCents.eq_true`).

A double that has strayed less than half a cent from a whole number of cents still shows which
it is (`cents_eq_of_near`), and both ways of rounding to two places find it again:

| rounding | from | needs |
| --- | --- | --- |
| `nearestHundredth` | the exact value, a half to the even hundredth | half a cent |
| `ofDouble` | the shortest decimal, a half up | half a cent, less the error of the decimal |

So they differ only on doubles that have strayed so far (`isCents_nearestHundredth`,
`exists_isCents_ofDouble`).
-/

import Lottery.Proofs.Binary64.Errors
import Lottery.Proofs.Money.Twice

namespace Lottery

open Binary64 (ofHundredths signed roundoff)

variable {x y : Binary64} {k : ℤ} {e h : ℚ} {m n : ℕ} {negative : Bool}

/-- The whole number of cents next to a double. -/
def Binary64.cents (x : Binary64) : ℤ :=
  ⌊100 * x.value + 1 / 2⌋

/-- A double that is nearest to a number of cents. -/
def IsCents (x : Binary64) (k : ℤ) : Prop :=
  ∃ negative n, n < 10 ^ 28 ∧ signed negative n = k ∧ x = ofHundredths negative n

/-! ### Whole numbers -/

/-- A number of cents with its sign is an integer. -/
theorem withSign_cast (negative : Bool) (n : ℕ) :
    withSign negative (n : ℚ) = (signed negative n : ℤ) := by
  cases negative <;> simp [withSign, signed]

/-- Its size is the number without the sign. -/
theorem natAbs_signed (negative : Bool) (n : ℕ) : (signed negative n).natAbs = n := by
  cases negative <;> simp [signed]

/-- The size of an amount, in hundredths. -/
theorem abs_div_hundred (k : ℤ) : |(k / 100 : ℚ)| = k.natAbs / 100 := by
  rw [abs_div, abs_of_pos (by norm_num : (0 : ℚ) < 100), Nat.cast_natAbs, Int.cast_abs]

/-- Less than half from a whole number, every rounding to whole numbers gives that one. -/
theorem signed_eq_of_near (hm : |(m : ℚ) - h| ≤ 1 / 2) (hk : |withSign negative h - k| < 1 / 2) :
    signed negative m = k := by
  have hdist : |((signed negative m - k : ℤ) : ℚ)| < 1 := by
    rw [Int.cast_sub, ← withSign_cast]
    have htriangle := abs_sub_le (withSign negative (m : ℚ)) (withSign negative h) k
    rw [abs_withSign_sub] at htriangle
    linarith
  exact sub_eq_zero.1 (Int.abs_lt_one_iff.1 (by exact_mod_cast hdist))

/-- A double within half a cent of a number of cents shows it. -/
theorem cents_eq_of_near (hx : x.Near (k / 100) e) (he : 100 * e < 1 / 2) : x.cents = k := by
  have hle := abs_le.1 hx.abs_le
  rw [Binary64.cents, Int.floor_eq_iff]
  constructor <;> linarith

/-! ### Amounts in cents -/

/-- Amounts within cents are far below the bound of the doubles. -/
theorem isFinite_ofHundredths (negative : Bool) (hn : n < 10 ^ 28) :
    (ofHundredths negative n).isFinite = true :=
  (Money.isNearest_ofHundredths negative hn).isFinite

/-- Finite doubles that are the same number are equal. -/
theorem Binary64.eq_of_value_eq (hx : x.isFinite = true) (hy : y.isFinite = true)
    (h : x.value = y.value) : x.eq y = true := by
  cases x with
  | nan | infinite s => cases hx
  | finite s u hu =>
    cases y with
    | nan | infinite t => cases hy
    | finite t v hv =>
      have hscale : (Binary64.scale : ℚ) ≠ 0 := Nat.cast_ne_zero.2 Binary64.scale_pos.ne'
      rw [Binary64.value, Binary64.value, div_left_inj' hscale] at h
      exact decide_eq_true (by exact_mod_cast h)

namespace IsCents

/-- An amount in cents is finite. -/
theorem isFinite (hx : IsCents x k) : x.isFinite = true := by
  obtain ⟨negative, n, hn, -, rfl⟩ := hx
  exact isFinite_ofHundredths negative hn

/-- Zero cents are zero under both signs, and other cents show their sign. -/
theorem value_eq (hx : IsCents x k) (hy : IsCents y k) : x.value = y.value := by
  obtain ⟨s, m, -, hs, rfl⟩ := hx
  obtain ⟨t, n, -, ht, rfl⟩ := hy
  have hsame : signed s m = signed t n := hs.trans ht.symm
  -- Zero has two signs; any other number of cents has one.
  by_cases hm : m = 0
  · have hn : n = 0 := by
      rw [hm] at hsame
      cases s <;> cases t <;> simp [signed] at hsame <;> omega
    rw [hm, hn, Money.ofHundredths_zero, Money.ofHundredths_zero, Binary64.value_zero,
      Binary64.value_zero]
  · obtain ⟨rfl, rfl⟩ := Binary64.signed_inj hsame hm
    rfl

/-- **Two doubles for the same cents are equal.** -/
theorem eq_true (hx : IsCents x k) (hy : IsCents y k) : x.eq y = true :=
  Binary64.eq_of_value_eq hx.isFinite hy.isFinite (hx.value_eq hy)

/-- It is as near to its exact amount as rounding leaves it. -/
theorem near (hx : IsCents x k) : x.Near (k / 100) (roundoff * (|(k / 100 : ℚ)| + 1)) := by
  obtain ⟨negative, n, hn, rfl, rfl⟩ := hx
  have hsign : withSign negative ((n : ℚ) / 100) = (signed negative n : ℤ) / 100 := by
    rw [← withSign_cast]
    cases negative <;> simp [withSign, neg_div]
  have hnearest := Money.isNearest_ofHundredths negative hn
  rw [hsign] at hnearest
  refine hnearest.near_of_le ?_
  have hn' : (n : ℚ) ≤ 10 ^ 28 := by exact_mod_cast hn.le
  -- All amounts in cents are far below the range where rounding is bounded.
  have hlarge : (10 : ℚ) ^ 28 ≤ 2 ^ 100 := by norm_num
  rw [← hsign, abs_withSign, abs_of_nonneg (by positivity)]
  linarith [n.cast_nonneg (α := ℚ)]

/-- What shows few cents stands for these. -/
theorem cents_eq (hx : IsCents x k) (h : x.cents.natAbs ≤ 2 ^ 51) : x.cents = k := by
  have hnear := hx.near
  have hsize := hnear.abs_value_le
  have hvalue := abs_sub_abs_le_abs_sub (k / 100 : ℚ) x.value
  rw [abs_sub_comm] at hvalue
  -- The cents are found by rounding, so the value is within a half of them.
  have hcents : |100 * x.value| ≤ 2 ^ 51 + 1 := by
    have hlow := Int.floor_le (100 * x.value + 1 / 2)
    have hhigh := Int.lt_floor_add_one (100 * x.value + 1 / 2)
    have h' : |(x.cents : ℚ)| ≤ 2 ^ 51 := by
      rw [← Int.cast_abs, ← Nat.cast_natAbs]
      exact_mod_cast h
    rw [Binary64.cents] at h'
    rw [abs_le] at h' ⊢
    constructor <;> linarith
  rw [abs_mul, abs_of_pos (by norm_num : (0 : ℚ) < 100)] at hcents
  have herror := hnear.abs_le
  have hk : |(k / 100 : ℚ)| ≤ 3 * 2 ^ 50 / 100 := by
    rw [roundoff] at herror
    norm_num at herror hcents ⊢
    linarith
  -- At this size the double nearest to the cents has strayed far less than half a cent.
  refine cents_eq_of_near hnear ?_
  rw [roundoff]
  norm_num at hk ⊢
  linarith

end IsCents

/-! ### Rounding to two places -/

/-- The double nearest to some hundredths is that amount in cents. -/
theorem isCents_ofHundredths (h : signed negative n = k) (hk : k.natAbs < 10 ^ 28) :
    IsCents (ofHundredths negative n) k := by
  rw [← h, natAbs_signed] at hk
  exact ⟨negative, n, hk, h, rfl⟩

/-- **The nearest hundredth** of what has strayed less than half a cent. -/
theorem isCents_nearestHundredth (hx : x.Near (k / 100) e) (he : 100 * e < 1 / 2)
    (hk : k.natAbs < 10 ^ 28) : IsCents x.nearestHundredth k := by
  cases x with
  | nan | infinite s => exact nomatch hx.isFinite
  | finite s u hu =>
    have hvalue : withSign s (((u * 100 : ℕ) : ℚ) / (Binary64.scale : ℕ)) =
        100 * (Binary64.finite s u hu).value := by
      rw [Binary64.value_finite, Nat.cast_mul, Nat.cast_ofNat, mul_div_right_comm, mul_comm]
      cases s <;> simp [withSign]
    -- Half even and the exact hundredths are within a half of each other, the exact ones and `k`
    -- within less.
    have hnear := Binary64.abs_halfEven_sub_le (u * 100) Binary64.scale_pos
    have hdist : |100 * (Binary64.finite s u hu).value - k| < 1 / 2 := by
      have hle := abs_le.1 hx.abs_le
      rw [abs_lt]
      constructor <;> linarith
    rw [← hvalue] at hdist
    exact isCents_ofHundredths (signed_eq_of_near hnear hdist) hk

/-- **Half up from the shortest decimal,** which may be farther by its own error. -/
theorem exists_isCents_ofDouble (hx : x.Near (k / 100) e)
    (he : 100 * (e + roundoff * (|(k / 100 : ℚ)| + e + 2)) < 1 / 2) (hk : k.natAbs ≤ 2 ^ 51) :
    ∃ y, Money.ofDouble x = .ok y ∧ IsCents y k := by
  obtain ⟨d, hd, hround, -, -⟩ := Binary64.exists_shortest?_of_isFinite hx.isFinite
  have hk' : (k.natAbs : ℚ) ≤ 2 ^ 51 := by exact_mod_cast hk
  have hsize := hx.abs_value_le
  have hvalue : |x.value| ≤ 2 ^ 50 := by
    have := mul_nonneg Binary64.roundoff_pos.le
      (add_nonneg (add_nonneg (abs_nonneg (k / 100 : ℚ)) hx.nonneg) zero_le_two)
    rw [abs_div_hundred] at hsize
    linarith
  -- What is rounded is the shortest decimal, which strays from the double as well.
  have hdecimal := (Binary64.isNearest_of_ofDecimal hx.isFinite hround).error_le_of_value hvalue
  have hscaled : roundoff * (|x.value| + 2) ≤ roundoff * (|(k / 100 : ℚ)| + e + 2) :=
    mul_le_mul_of_nonneg_left (by linarith) Binary64.roundoff_pos.le
  have hdist : |withSign d.negative d.hundredths - k| < 1 / 2 := by
    have hsign : withSign d.negative d.hundredths = 100 * d.value := by
      rw [Decimal.value, Decimal.hundredths_eq]
      cases d.negative <;> simp [withSign, mul_comm]
    have hle := abs_le.1 (hdecimal.trans hscaled)
    have hle' := abs_le.1 hx.abs_le
    rw [hsign, abs_lt]
    constructor <;> linarith
  -- Both distances together stay below half a cent, so a half up finds `k` again.
  have hhalf : signed d.negative d.halfUp = k :=
    signed_eq_of_near (Money.abs_floor_sub_le d.hundredths_nonneg) hdist
  have hlt : k.natAbs < 10 ^ 28 := hk.trans_lt (by decide)
  refine ⟨_, ?_, isCents_ofHundredths hhalf hlt⟩
  rw [Money.ofDouble, hd]
  refine Money.ofDecimal_eq_ok_iff.2 ⟨?_, rfl⟩
  rwa [← hhalf, natAbs_signed] at hlt

/-- The difference of two amounts, in hundredths. -/
theorem sub_div_hundred (k l : ℤ) : (k / 100 - l / 100 : ℚ) = (k - l : ℤ) / 100 := by
  rw [Int.cast_sub, sub_div]

/-- **The difference of two amounts** is found again below `2 ^ 51` cents. -/
theorem IsCents.nearestHundredth_sub {l : ℤ} (hx : IsCents x k) (hy : IsCents y l)
    (h : k.natAbs + l.natAbs + 200 < 2 ^ 51) : IsCents (x.sub y).nearestHundredth (k - l) := by
  have hnearx := hx.near
  have hneary := hy.near
  have hdiff := abs_sub (k / 100 : ℚ) (l / 100)
  rw [abs_div_hundred k] at hnearx hdiff
  rw [abs_div_hundred l] at hneary hdiff
  have h' : ((k.natAbs : ℚ) + l.natAbs + 200) < 2 ^ 51 := by exact_mod_cast h
  have hk := k.natAbs.cast_nonneg (α := ℚ)
  have hl := l.natAbs.cast_nonneg (α := ℚ)
  -- From here on the sizes are any numbers that satisfy the bound, and the rest is linear.
  generalize (k.natAbs : ℚ) = m at *
  generalize (l.natAbs : ℚ) = n at *
  have hsub := hnearx.sub hneary (by rw [roundoff]; norm_num at h' ⊢; linarith)
  rw [sub_div_hundred] at hsub hdiff
  refine isCents_nearestHundredth hsub ?_ (by omega)
  generalize |((k - l : ℤ) / 100 : ℚ)| = size at hdiff ⊢
  rw [roundoff]
  norm_num at h' ⊢
  linarith

/-- **The difference of two doubles that have strayed** less than half a cent together, two more
roundings included, is found again half up. -/
theorem exists_isCents_ofDouble_sub {l : ℤ} {f : ℚ} (hx : x.Near (k / 100) e)
    (hy : y.Near (l / 100) f) (hsize : k.natAbs + l.natAbs ≤ 2 ^ 51)
    (h : e + f + roundoff * (2 * ((k.natAbs + l.natAbs) / 100) + 5) < 1 / 200) :
    ∃ b, Money.ofDouble (x.sub y) = .ok b ∧ IsCents b (k - l) := by
  have hr := Binary64.roundoff_pos
  have he := hx.nonneg
  have hf := hy.nonneg
  have hsize' : ((k.natAbs : ℚ) + l.natAbs) ≤ 2 ^ 51 := by exact_mod_cast hsize
  have hdiff := abs_sub (k / 100 : ℚ) (l / 100)
  rw [abs_div_hundred k, abs_div_hundred l, ← add_div] at hdiff
  have hterm : 0 ≤ roundoff * ((k.natAbs + l.natAbs) / 100 : ℚ) := by positivity
  have hlarge : (2 : ℚ) ^ 51 + 1 ≤ 2 ^ 100 := by norm_num
  have hsub := hx.sub hy (by linarith)
  rw [sub_div_hundred] at hdiff hsub
  -- The difference is rounded once, and once more to its shortest decimal.
  have hrounded : roundoff * (|((k - l : ℤ) / 100 : ℚ)| + e + f + 1) ≤
      roundoff * ((k.natAbs + l.natAbs) / 100 + 2) :=
    mul_le_mul_of_nonneg_left (by linarith) hr.le
  generalize herror : e + f + roundoff * (|((k - l : ℤ) / 100 : ℚ)| + e + f + 1) = error at hsub
  have hshortest : roundoff * (|((k - l : ℤ) / 100 : ℚ)| + error + 2) ≤
      roundoff * ((k.natAbs + l.natAbs) / 100 + 3) :=
    mul_le_mul_of_nonneg_left (by linarith) hr.le
  exact exists_isCents_ofDouble hsub (by linarith) (by omega)

end Lottery
