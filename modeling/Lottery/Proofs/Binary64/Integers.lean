/-
# Integers as doubles

An integer is a double up to `2 ^ 1024 - 2 ^ 970`, which is halfway between the
greatest double and the one that would come next (`isFinite_ofInt_iff`).

An integer above a double may be rounded down to it, and so may its sum with another
double, but not below it: the sum exceeds the double exactly if it is not that double
(`lt_add_ofInt_iff`).  Up to `2 ^ 53` an integer is not rounded, and then it is not
(`add_ofInt_ne_of_le`).
-/

import Lottery.Proofs.Binary64.Nearest

namespace Lottery
namespace Binary64

variable {x y : Binary64} {a d n u v : Nat} {negative : Bool}

/-- A number that is not negative becomes the double nearest to its units. -/
theorem ofInt_natCast (n : Nat) : ofInt n = round false (n <<< 1074) 1 :=
  rfl

/-- A fraction is rounded to a finite double exactly if its nearest units are below the bound. -/
theorem isFinite_round_iff :
    (round negative a d).isFinite = true ↔ nearestUnits a d < 1 <<< 2098 := by
  rw [round_eq]
  split
  · next h => exact iff_of_true rfl h.1
  · next h => exact iff_of_false Bool.false_ne_true fun hlt => h ⟨hlt, short_nearestUnits a d⟩

/-- A greater number of wholes is not rounded to less. -/
theorem nearestUnits_shiftLeft_mono {m : Nat} (h : m ≤ n) :
    nearestUnits (m <<< 1074) 1 ≤ nearestUnits (n <<< 1074) 1 := by
  have hscale : m * scale ≤ n * scale := Nat.mul_le_mul_right _ h
  rw [← shiftLeft_eq_mul_scale, ← shiftLeft_eq_mul_scale] at hscale
  exact nearestUnits_mono Nat.one_pos Nat.one_pos
    (div_le_div_of_nonneg_right (Nat.cast_le.2 hscale) (Nat.cast_nonneg _))

/-- Below the middle between a short number and a greater one it is not rounded up to that. -/
theorem nearestUnits_lt {top : Nat} (hd : 0 < d) (hv : Short v) (htop : Short top) (hlt : v < top)
    (h : 2 * ((a : ℚ) / d) < v + top) : nearestUnits a d < top := by
  have hltop : (v : ℚ) < top := Nat.cast_lt.2 hlt
  refine lt_of_le_of_ne (nearestUnits_le hd htop (by linarith)) fun heq => ?_
  have hnear := nearestUnits_near a hd hv
  rw [heq] at hnear
  linarith [add_le_two_mul hltop hnear]

/-- The units of the greatest double. -/
def greatest : Nat :=
  (2 ^ 53 - 1) <<< 2045

/-- The least integer that is rounded to an infinity. -/
def overflow : Nat :=
  2 ^ 1024 - 2 ^ 970

/-- **An integer is a double below the middle** between the greatest one and the next. -/
theorem isFinite_ofInt_iff : (ofInt n).isFinite = true ↔ n < overflow := by
  rw [ofInt_natCast, isFinite_round_iff]
  constructor
  · intro h
    -- From the middle on it is rounded up, the tie too, as the number below it is odd.
    by_contra hle
    have hmono := nearestUnits_shiftLeft_mono (not_lt.1 hle)
    have htop : nearestUnits (overflow <<< 1074) 1 = 1 <<< 2098 := by decide +kernel
    rw [htop] at hmono
    exact hmono.not_gt h
  · intro h
    -- Below the middle the greatest double is nearer than the number that comes next.
    have hgreatest : Short greatest := short_shiftLeft (by decide) 2045
    have hlt : greatest < 1 <<< 2098 := by decide +kernel
    have hmiddle : 2 * (overflow * scale) = greatest + 1 <<< 2098 := by decide +kernel
    have hn : n * scale < overflow * scale := Nat.mul_lt_mul_of_pos_right h scale_pos
    refine nearestUnits_lt Nat.one_pos hgreatest (short_one_shiftLeft 2098) hlt ?_
    rw [Nat.cast_one, div_one, shiftLeft_eq_mul_scale]
    generalize 1 <<< 2098 = top at hmiddle ⊢
    have hsum : 2 * (n * scale) < greatest + top := by omega
    exact_mod_cast hsum

/-! ### Comparing with a sum -/

/-- A finite double is not below zero exactly if its units are counted upwards. -/
theorem value_nonneg_iff (s : Bool) (hu : Representable u) :
    0 ≤ (finite s u hu).value ↔ signed s u = u := by
  have hscale : (0 : ℚ) < scale := Nat.cast_pos.2 scale_pos
  rw [value, le_div_iff₀ hscale, zero_mul]
  cases s
  · exact iff_of_true u.cast_nonneg rfl
  · rw [signed, if_pos rfl, Int.cast_nonneg_iff]
    omega

/-- A double above zero has units and no sign. -/
theorem exists_eq_finite_of_value_pos (h : 0 < x.value) :
    ∃ u hu, x = finite false u hu ∧ x.value * scale = u ∧ 0 < u := by
  have hscale : (0 : ℚ) < scale := Nat.cast_pos.2 scale_pos
  cases x with
  | nan => exact absurd rfl h.ne
  | infinite s => exact absurd rfl h.ne
  | finite s u hu =>
    have hsigned := (value_nonneg_iff s hu).1 h.le
    rw [value, hsigned, Int.cast_natCast] at h ⊢
    have hpos : 0 < u := by
      rw [div_pos_iff_of_pos_right hscale] at h
      exact_mod_cast h
    -- A negative sign would make the units negative or zero.
    cases s with
    | false => exact ⟨u, hu, rfl, div_mul_cancel₀ _ hscale.ne', hpos⟩
    | true =>
      rw [signed, if_pos rfl] at hsigned
      omega

/-- A sum of a double that is not negative and a positive integer is rounded once. -/
theorem exists_add_ofInt (hy : y.isFinite = true) (hnonneg : 0 ≤ y.value)
    (hn : (ofInt n).isFinite = true) (hpos : 0 < nearestUnits (n <<< 1074) 1) :
    ∃ p, y.add (ofInt n) = round false (p + nearestUnits (n <<< 1074) 1) 1 := by
  cases y with
  | nan => cases hy
  | infinite s => cases hy
  | finite s p hp =>
    have hsigned := (value_nonneg_iff s hp).1 hnonneg
    have hm : Representable (nearestUnits (n <<< 1074) 1) :=
      ⟨isFinite_round_iff.1 hn, short_nearestUnits _ _⟩
    have hofInt : ofInt n = finite false _ hm := dif_pos hm
    refine ⟨p, ?_⟩
    rw [hofInt]
    generalize nearestUnits (n <<< 1074) 1 = m at hpos hm ⊢
    -- Neither summand is negative, so their units add up as naturals and no sign is left.
    have hsum : signed s p + signed false m = ((p + m : Nat) : Int) := by
      rw [hsigned, signed, if_neg (by decide)]
      push_cast
      rfl
    rw [add, hsum, if_neg (by omega), decide_eq_false (by omega), Int.natAbs_natCast]

/-- What is rounded from above a double is that double or greater. -/
theorem lt_round_iff (hu : Representable u) (h : u ≤ a) :
    (finite false u hu).lt (round false a 1) = true ↔ round false a 1 ≠ finite false u hu := by
  -- Rounding keeps order, and a double is rounded to itself: so it does not fall below `u`.
  have hle : u ≤ nearestUnits a 1 := by
    refine le_nearestUnits Nat.one_pos hu.2 ?_
    rw [Nat.cast_one, div_one]
    exact Nat.cast_le.2 h
  rw [round_eq]
  split
  · next hr =>
    rw [lt]
    dsimp only [place?, signed]
    rw [if_neg (by decide), if_neg (by decide), decide_eq_true_iff, Ne, finite.injEq,
      and_iff_right rfl]
    omega
  · refine iff_of_true ?_ (infinite_ne_finite hu)
    rw [lt]
    dsimp only [place?, signed]
    rw [if_neg (by decide), if_neg (by decide), decide_eq_true_iff]
    exact_mod_cast hu.1

/-- **A sum with an integer above a double exceeds it, unless it is rounded to it.** -/
theorem lt_add_ofInt_iff (hx : 0 < x.value) (hy : y.isFinite = true) (hnonneg : 0 ≤ y.value)
    (hn : (ofInt n).isFinite = true) (h : x.value < n) :
    x.lt (y.add (ofInt n)) = true ↔ y.add (ofInt n) ≠ x := by
  obtain ⟨u, hu, rfl, hunits, hpos⟩ := exists_eq_finite_of_value_pos hx
  have hlt : (u : ℚ) < n * scale := by
    rw [← hunits]
    exact mul_lt_mul_of_pos_right h (Nat.cast_pos.2 scale_pos)
  -- The integer alone is not rounded below the limit, and what is used only adds to it.
  have hle : u ≤ nearestUnits (n <<< 1074) 1 := by
    refine le_nearestUnits Nat.one_pos hu.2 ?_
    rw [Nat.cast_one, div_one, shiftLeft_eq_mul_scale, Nat.cast_mul]
    exact hlt.le
  obtain ⟨p, hp⟩ := exists_add_ofInt hy hnonneg hn (hpos.trans_le hle)
  rw [hp]
  exact lt_round_iff hu (hle.trans (Nat.le_add_left _ _))

/-- Up to `2 ^ 53` it always exceeds it. -/
theorem add_ofInt_ne_of_le (hx : 0 < x.value) (hy : y.isFinite = true) (hnonneg : 0 ≤ y.value)
    (hn : n ≤ 2 ^ 53) (h : x.value < n) : y.add (ofInt n) ≠ x := by
  obtain ⟨u, hu, rfl, hunits, hpos⟩ := exists_eq_finite_of_value_pos hx
  have hlt : (u : ℚ) < (n * scale : Nat) := by
    rw [← hunits, Nat.cast_mul]
    exact mul_lt_mul_of_pos_right h (Nat.cast_pos.2 scale_pos)
  -- An integer of 53 digits keeps all of them, so it stays strictly above the limit.
  have hshort : Short (n * scale) := by
    rw [← shiftLeft_eq_mul_scale]
    exact short_shiftLeft hn 1074
  have hsame : nearestUnits (n <<< 1074) 1 = n * scale := by
    rw [shiftLeft_eq_mul_scale]
    exact nearestUnits_of_short hshort
  have hfinite : (ofInt n).isFinite = true :=
    isFinite_ofInt_iff.2 (hn.trans_lt (by decide +kernel))
  have hlt' : u < n * scale := by exact_mod_cast hlt
  obtain ⟨p, hp⟩ := exists_add_ofInt hy hnonneg hfinite (hsame ▸ hpos.trans hlt')
  rw [hp, hsame, round_eq]
  have hle : n * scale ≤ nearestUnits (p + n * scale) 1 := by
    refine le_nearestUnits Nat.one_pos hshort ?_
    rw [Nat.cast_one, div_one]
    exact Nat.cast_le.2 (Nat.le_add_left _ _)
  -- The sum is at least the integer itself, or it is infinite.
  split
  · intro heq
    exact (hlt'.trans_le hle).ne' ((finite.injEq ..).mp heq).2
  · exact infinite_ne_finite hu

end Binary64
end Lottery
