/-
# The shortest decimal reads back

A decimal is rounded to the double nearest to its exact size, however many digits
it has (`ofDecimal_eq_round`).  The decimals with a given number of digits are a
grid; if any point of it rounds to a double, so does a neighbour of the double
(`exists_withDigits?`), and on the grid of 17 digits one always does
(`exists_withDigits?_seventeen`).

So every finite double has a shortest decimal, of no more than 17 digits, that
is rounded to it, and no decimal with fewer digits is (`isShortest_shortest?`).
-/

import Lottery.Binary64.Shortest
import Lottery.Proofs.Binary64.Nearest
import Lottery.Proofs.Decimal.Size
import Mathlib.Algebra.Order.Floor.Semifield
import Mathlib.Data.Rat.Floor

namespace Lottery
namespace Binary64

variable {negative : Bool} {u a e c k : Nat} {d : Decimal} {place : Int}

/-- Equal fractions have the same nearest units. -/
theorem nearestUnits_eq_of_div_eq {a d a' d' : Nat} (hd : 0 < d) (hd' : 0 < d')
    (h : (a : ℚ) / d = a' / d') : nearestUnits a d = nearestUnits a' d' :=
  Nat.le_antisymm (nearestUnits_mono hd hd' h.le) (nearestUnits_mono hd' hd h.ge)

/-! ### Decimals as fractions of units -/

/-- A decimal is a fraction of units. -/
theorem exists_units (d : Decimal) : ∃ a e : Nat, 0 < e ∧ (a : ℚ) / e = d.size * scale := by
  rw [Decimal.size]
  cases d.exponent with
  | ofNat k =>
    refine ⟨d.coefficient * 10 ^ k * scale, 1, Nat.one_pos, ?_⟩
    rw [Int.ofNat_eq_natCast, zpow_natCast, Nat.cast_one, div_one]
    push_cast
    rfl
  | negSucc k =>
    refine ⟨d.coefficient * scale, 10 ^ (k + 1), by positivity, ?_⟩
    rw [zpow_negSucc, div_eq_mul_inv, mul_right_comm]
    push_cast
    rfl

/-- What is below half a unit is rounded to zero. -/
theorem round_eq_zero (he : 0 < e) (h : (a : ℚ) / e < 1 / 2) :
    round negative a e = zero negative := by
  have hnear := nearestUnits_near a he (v := 0) (Nat.zero_mod _)
  have hnonneg : (0 : ℚ) ≤ a / e := div_nonneg a.cast_nonneg e.cast_nonneg
  rw [Nat.cast_zero, zero_sub, abs_neg, abs_of_nonneg hnonneg] at hnear
  have hle := (abs_le.1 hnear).2
  have hlt : (nearestUnits a e : ℚ) < 1 := by linarith
  have hzero : nearestUnits a e = 0 := Nat.lt_one_iff.1 (by exact_mod_cast hlt)
  simp only [round_eq, hzero]
  rfl

/-- What is not below the bound of the doubles is rounded to an infinity. -/
theorem round_eq_infinite (he : 0 < e) (h : ((1 <<< 2098 : Nat) : ℚ) ≤ a / e) :
    round negative a e = .infinite negative :=
  dif_neg fun hr => absurd hr.1 (Nat.not_lt.2 (le_nearestUnits he (short_one_shiftLeft 2098) h))

/-- A decimal whose point stands far in front of its digits is below half a unit. -/
theorem units_lt_half (h : d.coefficient = 0 ∨ d.pointPlace < -400) : d.size * scale < 1 / 2 := by
  rcases h with hzero | hplace
  · rw [Decimal.size_eq_zero_iff.2 hzero, zero_mul]
    norm_num
  -- A decimal with its point so far to the left is below `10 ^ -401`, and twice the number of
  -- units in 1 is below `10 ^ 401`.
  · have hlt : d.size < (10 ^ (401 : Nat))⁻¹ := by
      rw [← zpow_natCast, ← zpow_neg]
      exact d.size_lt.trans_le (zpow_le_zpow_right₀ (by norm_num) (by omega))
    have hbound : 2 * (scale : ℚ) ≤ 10 ^ 401 := by
      exact_mod_cast (by decide +kernel : 2 * scale ≤ 10 ^ 401)
    have hpos : (0 : ℚ) < 10 ^ 401 := pow_pos (by norm_num) _
    have hone : d.size * 10 ^ 401 < 1 := by
      rw [← inv_mul_cancel₀ hpos.ne']
      exact mul_lt_mul_of_pos_right hlt hpos
    have hle := mul_le_mul_of_nonneg_left hbound d.size_nonneg
    generalize (10 : ℚ) ^ 401 = bound at hone hle
    linarith

/-- One whose point stands far behind is not below the bound of the doubles. -/
theorem bound_le_units (hd : d.coefficient ≠ 0) (h : 400 < d.pointPlace) :
    ((1 <<< 2098 : Nat) : ℚ) ≤ d.size * scale := by
  have hbound : 1 <<< 2098 ≤ 10 ^ 400 * scale := by decide +kernel
  calc ((1 <<< 2098 : Nat) : ℚ) ≤ (10 ^ 400 * scale : Nat) := Nat.cast_le.2 hbound
    _ = 10 ^ (400 : Int) * scale := by rw [Nat.cast_mul, Nat.cast_pow]; rfl
    _ ≤ d.size * scale := by
      refine mul_le_mul_of_nonneg_right ?_ scale.cast_nonneg
      exact (zpow_le_zpow_right₀ (by norm_num) (by omega)).trans (Decimal.le_size hd)

/-- So they are rounded to the same double. -/
theorem round_eq_of_div_eq {a d a' d' : Nat} (hd : 0 < d) (hd' : 0 < d')
    (h : (a : ℚ) / d = a' / d') : round negative a d = round negative a' d' := by
  simp only [round_eq, nearestUnits_eq_of_div_eq hd hd' h]

/-- **A decimal is rounded once, from its exact size.** -/
theorem ofDecimal_eq_round (d : Decimal) (he : 0 < e) (h : (a : ℚ) / e = d.size * scale) :
    ofDecimal d = round d.negative a e := by
  unfold ofDecimal
  -- The shortcuts for extreme decimals give what rounding gives.
  split
  · next hsmall => exact (round_eq_zero he (h.trans_lt (units_lt_half hsmall))).symm
  · next hne =>
    split
    · next hlarge =>
      have hle := bound_le_units (fun hzero => hne (.inl hzero)) hlarge
      exact (round_eq_infinite he (hle.trans_eq h.symm)).symm
    · rw [Decimal.size] at h
      -- A power of ten goes into the numerator or into the denominator, by the sign of the
      -- exponent.
      cases hk : d.exponent with
      | ofNat k =>
        refine round_eq_of_div_eq Nat.one_pos he ?_
        rw [h, hk, Int.ofNat_eq_natCast, zpow_natCast, shiftLeft_eq_mul_scale, Nat.cast_one,
          div_one, Nat.pow_eq]
        push_cast
        rfl
      | negSucc k =>
        refine round_eq_of_div_eq (Nat.pow_pos (by decide)) he ?_
        rw [h, hk, zpow_negSucc, shiftLeft_eq_mul_scale, Nat.pow_eq, mul_right_comm,
          ← div_eq_mul_inv]
        push_cast
        rfl

/-- A decimal is rounded to a double exactly if it has its sign and its number of units. -/
theorem ofDecimal_eq_finite_iff {hu : Representable u} (he : 0 < e)
    (h : (a : ℚ) / e = d.size * scale) :
    ofDecimal d = finite negative u hu ↔ d.negative = negative ∧ nearestUnits a e = u := by
  rw [ofDecimal_eq_round d he h, round_eq]
  split
  · rw [finite.injEq]
  · next hr =>
    refine iff_of_false (infinite_ne_finite hu) ?_
    rintro ⟨_, rfl⟩
    exact hr hu

/-- What lies between a decimal and the double that it is rounded to is rounded to it as well. -/
theorem ofDecimal_of_between {hu : Representable u} {d' : Decimal}
    (h : ofDecimal d = finite negative u hu) (hsign : d'.negative = d.negative)
    (hbetween : d.size * scale ≤ d'.size * scale ∧ d'.size * scale ≤ u ∨
      u ≤ d'.size * scale ∧ d'.size * scale ≤ d.size * scale) :
    ofDecimal d' = finite negative u hu := by
  obtain ⟨a, e, he, ha⟩ := exists_units d
  obtain ⟨a', e', he', ha'⟩ := exists_units d'
  obtain ⟨hnegative, hunits⟩ := (ofDecimal_eq_finite_iff he ha).1 h
  refine (ofDecimal_eq_finite_iff he' ha').2 ⟨hsign.trans hnegative, ?_⟩
  rw [← ha, ← ha'] at hbetween
  -- Rounding keeps order on both sides: `d` and the double itself are rounded to the double.
  rcases hbetween with ⟨hlow, hhigh⟩ | ⟨hlow, hhigh⟩
  · exact Nat.le_antisymm (nearestUnits_le he' hu.2 hhigh)
      (hunits.symm.le.trans (nearestUnits_mono he he' hlow))
  · exact Nat.le_antisymm ((nearestUnits_mono he' he hhigh).trans hunits.le)
      (le_nearestUnits he' hu.2 hlow)

/-! ### The leading digit -/

/-- The digits of a quotient tell its power of ten. -/
theorem digitCount_div_spec {a b : Nat} (hb : 0 < b) (h : b ≤ a) :
    10 ^ (Text.digitCount (a / b) - 1) * b ≤ a ∧ a < 10 ^ Text.digitCount (a / b) * b := by
  have hne : a / b ≠ 0 := (Nat.div_pos h hb).ne'
  constructor
  · refine (Nat.mul_le_mul_right b ?_).trans (Nat.div_mul_le_self a b)
    exact Text.pow_le_of_lt_digitCount hne (Nat.sub_one_lt_of_lt Nat.length_toDigits_pos)
  · exact (Nat.div_lt_iff_lt_mul hb).1 (Text.lt_pow_digitCount _)

/-- **The leading place of a double** is that of its first digit. -/
theorem leadingPlace_spec (hu : u ≠ 0) : (10 : ℚ) ^ leadingPlace u * scale ≤ u ∧
    (u : ℚ) < 10 ^ (leadingPlace u + 1) * scale := by
  have hpos := Nat.pos_of_ne_zero hu
  have hshift : u >>> 1074 = u / scale := by
    rw [Nat.shiftRight_eq_div_pow, scale, Nat.one_shiftLeft]
  have hsub : ∀ {m : Nat}, 0 < m → ((m : Int) - 1) = ((m - 1 : Nat) : Int) := by omega
  unfold leadingPlace
  rw [hshift, ← scale]
  dsimp only
  split
  · next hzero =>
    -- The reciprocal is taken just below the whole, so that a power of ten itself is not one less.
    have hlt : u < scale := (Nat.div_eq_zero_iff.1 hzero).resolve_left scale_pos.ne'
    obtain ⟨hlow, hhigh⟩ := digitCount_div_spec hpos (Nat.le_sub_one_of_lt hlt)
    generalize hk : Text.digitCount ((scale - 1) / u) = k at hlow hhigh
    have hk0 : 0 < k := hk ▸ Nat.length_toDigits_pos
    have habove : scale ≤ 10 ^ k * u := Nat.le_of_pred_lt hhigh
    have hbelow : 10 ^ (k - 1) * u < scale := Nat.lt_of_le_pred scale_pos hlow
    have hten : ∀ m : Nat, (0 : ℚ) < 10 ^ m := fun m => by positivity
    constructor
    · rw [zpow_neg, zpow_natCast, inv_mul_le_iff₀ (hten k)]
      exact_mod_cast habove
    · rw [show -(k : Int) + 1 = -((k : Int) - 1) by ring, hsub hk0, zpow_neg, zpow_natCast,
        lt_inv_mul_iff₀ (hten _)]
      exact_mod_cast hbelow
  · next hwhole =>
    have hle : scale ≤ u := by
      by_contra hlt
      exact hwhole (Nat.div_eq_of_lt (not_le.1 hlt))
    obtain ⟨hlow, hhigh⟩ := digitCount_div_spec scale_pos hle
    have hk0 : 0 < Text.digitCount (u / scale) := Nat.length_toDigits_pos
    constructor
    · rw [hsub hk0, zpow_natCast]
      exact_mod_cast hlow
    · rw [sub_add_cancel, zpow_natCast]
      exact_mod_cast hhigh

/-! ### The shortest decimal -/

/-- A step at a decimal place is above zero. -/
theorem gridUnit_pos (place : Int) : (0 : ℚ) < 10 ^ place * scale :=
  mul_pos (zpow_pos (by norm_num) _) (Nat.cast_pos.2 scale_pos)

/-- The candidates on a grid are the point not above the double and the next one. -/
theorem mem_neighbours {m : Nat} : m ∈ neighbours u place ↔
    m = ⌊(u : ℚ) / (10 ^ place * scale)⌋₊ ∨ m = ⌊(u : ℚ) / (10 ^ place * scale)⌋₊ + 1 := by
  -- Half even is one of the two neighbours, and the list has the other one too.
  have hcases : ∀ a d : Nat, (a : ℚ) / d = u / (10 ^ place * scale) →
      (m ∈ (if halfEven a d = a / d then [halfEven a d, halfEven a d + 1]
        else [halfEven a d, halfEven a d - 1]) ↔
      m = ⌊(u : ℚ) / (10 ^ place * scale)⌋₊ ∨ m = ⌊(u : ℚ) / (10 ^ place * scale)⌋₊ + 1) := by
    intro a d h
    rw [← h, Nat.floor_div_eq_div]
    rcases halfEven_cases a d with ⟨hc, -⟩ | ⟨hc, -⟩
    · simp [hc]
    · simp [hc, or_comm]
  unfold neighbours
  cases place with
  | ofNat k =>
    refine hcases u (Nat.pow 10 k <<< 1074) ?_
    rw [shiftLeft_eq_mul_scale, Nat.pow_eq, Int.ofNat_eq_natCast, zpow_natCast]
    push_cast
    rfl
  | negSucc k =>
    refine hcases (u * Nat.pow 10 (k + 1)) (1 <<< 1074) ?_
    rw [Nat.pow_eq, zpow_negSucc, ← scale, Nat.cast_mul, Nat.cast_pow, ← div_div, div_inv_eq_mul]
    rfl

/-- The decimal that is tried first on a grid is one next to the double that is rounded to it. -/
theorem withDigits?_eq_some {x : Binary64} (h : withDigits? x negative u k = some d) :
    ∃ m ∈ neighbours u (leadingPlace u - k + 1), d = ⟨negative, m, leadingPlace u - k + 1⟩ ∧
      ofDecimal d = x := by
  unfold withDigits? at h
  dsimp only at h
  have hround := List.find?_some h
  obtain ⟨m, hm, hd⟩ := List.mem_map.1 (List.mem_of_find?_eq_some h)
  exact ⟨m, hm, hd.symm, of_decide_eq_true hround⟩

/-- **If a point of a grid is rounded to a double, a neighbour of the double is.** -/
theorem exists_withDigits? {hu : Representable u} {m : Nat}
    (h : ofDecimal ⟨negative, m, leadingPlace u - k + 1⟩ = finite negative u hu) :
    ∃ d, withDigits? (finite negative u hu) negative u k = some d := by
  refine Option.isSome_iff_exists.1 (List.find?_isSome.2 ?_)
  generalize hplace : leadingPlace u - k + 1 = place at h
  have hunit := gridUnit_pos place
  have hsize : ∀ m : Nat,
      (⟨negative, m, place⟩ : Decimal).size * scale = m * (10 ^ place * scale) :=
    fun m => mul_assoc _ _ _
  have hle := Nat.floor_le (div_nonneg u.cast_nonneg hunit.le)
  have hlt := Nat.lt_floor_add_one ((u : ℚ) / (10 ^ place * scale))
  -- The neighbour on the side of `m` stands between `m` and the double, so it is rounded to it as
  -- `m` is.
  rcases le_or_gt ((m : ℚ) * (10 ^ place * scale)) u with hm | hm
  · have hfloor : m ≤ ⌊(u : ℚ) / (10 ^ place * scale)⌋₊ := Nat.le_floor ((le_div_iff₀ hunit).2 hm)
    refine ⟨_, List.mem_map.2 ⟨_, mem_neighbours.2 (.inl rfl), rfl⟩, decide_eq_true ?_⟩
    refine ofDecimal_of_between h rfl (.inl ?_)
    rw [hsize, hsize]
    exact ⟨mul_le_mul_of_nonneg_right (Nat.cast_le.2 hfloor) hunit.le, (le_div_iff₀ hunit).1 hle⟩
  · have hfloor : ⌊(u : ℚ) / (10 ^ place * scale)⌋₊ + 1 ≤ m :=
      (Nat.floor_lt (div_nonneg u.cast_nonneg hunit.le)).2 ((div_lt_iff₀ hunit).2 hm)
    refine ⟨_, List.mem_map.2 ⟨_, mem_neighbours.2 (.inr rfl), rfl⟩, decide_eq_true ?_⟩
    refine ofDecimal_of_between h rfl (.inr ?_)
    rw [hsize, hsize]
    refine ⟨?_, mul_le_mul_of_nonneg_right (Nat.cast_le.2 hfloor) hunit.le⟩
    rw [Nat.cast_add_one]
    exact ((div_lt_iff₀ hunit).1 hlt).le

/-- **On the grid of 17 digits a decimal is always rounded to the double.** -/
theorem exists_withDigits?_seventeen (negative : Bool) (hu : Representable u) (hne : u ≠ 0) :
    ∃ d, withDigits? (finite negative u hu) negative u 17 = some d := by
  obtain ⟨hlow, -⟩ := leadingPlace_spec hne
  have hplace : leadingPlace u - (17 : Nat) + 1 = leadingPlace u - 16 := by omega
  have hleading : (10 : ℚ) ^ leadingPlace u = 10 ^ 16 * 10 ^ (leadingPlace u - 16) := by
    rw [← zpow_natCast, ← zpow_add₀ (by norm_num)]
    congr 1
    push_cast
    ring
  have hunit := gridUnit_pos (leadingPlace u - 16)
  -- The nearest point of the grid is half a unit of it away, which is less than `2 ^ -54`.
  obtain ⟨m, hm⟩ : ∃ m : Nat, |(u : ℚ) / (10 ^ (leadingPlace u - 16) * scale) - m| ≤ 1 / 2 := by
    have hnonneg := div_nonneg u.cast_nonneg hunit.le
    generalize (u : ℚ) / (10 ^ (leadingPlace u - 16) * scale) = q at hnonneg ⊢
    have hle := Nat.floor_le (add_nonneg hnonneg one_half_pos.le)
    have hlt := Nat.lt_floor_add_one (q + 1 / 2)
    refine ⟨⌊q + 1 / 2⌋₊, abs_le.2 ⟨?_, ?_⟩⟩ <;> linarith
  refine exists_withDigits? (m := m) ?_
  rw [hplace]
  obtain ⟨a, e, he, ha⟩ := exists_units ⟨negative, m, leadingPlace u - 16⟩
  refine (ofDecimal_eq_finite_iff he ha).2 ⟨rfl, nearestUnits_of_near he hu.2 ?_⟩
  rw [ha, Decimal.size]
  rw [hleading] at hlow
  rw [mul_assoc] at hlow ⊢
  dsimp only
  generalize (10 : ℚ) ^ (leadingPlace u - 16) * scale = unit at hm hlow hunit ⊢
  calc 2 ^ 54 * |(m : ℚ) * unit - u| = 2 ^ 54 * (|(u : ℚ) / unit - m| * unit) := by
        rw [abs_sub_comm, ← abs_of_pos hunit, ← abs_mul, abs_of_pos hunit, sub_mul,
          div_mul_cancel₀ _ hunit.ne', abs_sub_comm]
    _ ≤ 2 ^ 54 * (1 / 2 * unit) := by gcongr
    _ < 10 ^ 16 * unit := by linarith
    _ ≤ u := hlow

/-- What the search for the shortest decimal finds. -/
theorem exists_shortest? (negative : Bool) (hu : Representable u) (hne : u ≠ 0) :
    ∃ k d, shortest? (finite negative u hu) = some d ∧ 1 ≤ k ∧ k ≤ 17 ∧
      withDigits? (finite negative u hu) negative u k = some d ∧
      ∀ j, 1 ≤ j → j < k → withDigits? (finite negative u hu) negative u j = none := by
  obtain ⟨last, hlast⟩ := exists_withDigits?_seventeen negative hu hne
  -- With seventeen digits there always is one, so the search ends.
  have hsome : ((List.range' 1 17).findSome?
      (withDigits? (finite negative u hu) negative u)).isSome :=
    List.findSome?_isSome_iff.2 ⟨17, by simp, by simp [hlast]⟩
  obtain ⟨d, hd⟩ := Option.isSome_iff_exists.1 hsome
  obtain ⟨before, k, after, hlist, hk, hbefore⟩ := List.findSome?_eq_some_iff.1 hd
  have hmem : k ∈ List.range' 1 17 := by simp [hlist]
  rw [List.mem_range'_1] at hmem
  refine ⟨k, d, ?_, by omega, by omega, hk, fun j hj hjk => hbefore j ?_⟩
  · rw [shortest?, if_neg hne, hd]
    rfl
  -- Numbers of digits are tried in increasing order, so all smaller ones were tried before.
  · have hsorted : (List.range' 1 17).Pairwise (· < ·) := List.pairwise_lt_range'
    have hmem' : j ∈ List.range' 1 17 := List.mem_range'_1.2 (by omega)
    rw [hlist] at hsorted hmem'
    rcases List.mem_append.1 hmem' with h | h
    · exact h
    · have hle : k ≤ j := by
        rcases List.mem_cons.1 h with rfl | h
        · exact le_rfl
        · exact (List.rel_of_pairwise_cons (List.pairwise_append.1 hsorted).2.1 h).le
      exact absurd hjk (not_lt.2 hle)

/-- A decimal of a double that is not longer than need be: none that is rounded to it has its last
place further left, as far as the leading place. -/
structure IsShortest (negative : Bool) (hu : Representable u) (d : Decimal) : Prop where
  rounds : ofDecimal d = finite negative u hu
  coefficient_le : d.coefficient ≤ 10 ^ 17
  le_exponent : ∀ d', ofDecimal d' = finite negative u hu → d'.exponent ≤ leadingPlace u →
    d'.exponent ≤ d.exponent

/-- **The shortest decimal of a double is rounded to it,** and no shorter one is. -/
theorem isShortest_shortest? (negative : Bool) (hu : Representable u) (hne : u ≠ 0) :
    ∃ d, shortest? (finite negative u hu) = some d ∧ IsShortest negative hu d := by
  obtain ⟨k, d, hd, hk1, hk17, hk, hbefore⟩ := exists_shortest? negative hu hne
  obtain ⟨m, hm, rfl, hround⟩ := withDigits?_eq_some hk
  refine ⟨_, hd, hround, ?_, fun d' hd' hle => ?_⟩
  · obtain ⟨-, hhigh⟩ := leadingPlace_spec hne
    have hunit := gridUnit_pos (leadingPlace u - k + 1)
    -- The double has `k` digits before the grid, so a neighbour is at most `10 ^ k`.
    have hfloor : ⌊(u : ℚ) / (10 ^ (leadingPlace u - k + 1) * scale)⌋₊ < 10 ^ k := by
      have hten : (10 : ℚ) ^ (leadingPlace u + 1) = 10 ^ k * 10 ^ (leadingPlace u - k + 1) := by
        rw [← zpow_natCast, ← zpow_add₀ (by norm_num)]
        congr 1
        ring
      rw [Nat.floor_lt (div_nonneg u.cast_nonneg hunit.le), div_lt_iff₀ hunit, ← mul_assoc,
        Nat.cast_pow, Nat.cast_ofNat, ← hten]
      exact hhigh
    have hpow : 10 ^ k ≤ 10 ^ 17 := Nat.pow_le_pow_right (by decide) hk17
    have hle : m ≤ 10 ^ k := by
      rcases mem_neighbours.1 hm with h | h
      · exact (h.trans_lt hfloor).le
      · exact h.trans_le hfloor
    exact hle.trans hpow
  · by_contra hlt
    obtain ⟨a, e, he, ha⟩ := exists_units d'
    obtain ⟨rfl, -⟩ := (ofDecimal_eq_finite_iff he ha).1 hd'
    -- A shorter decimal would be on the grid of fewer digits, where none was found.
    obtain ⟨j, hj⟩ := Int.eq_ofNat_of_zero_le (show 0 ≤ leadingPlace u - d'.exponent + 1 by omega)
    have hplace : d'.exponent = leadingPlace u - j + 1 := by omega
    have hsome : ∃ d, withDigits? (finite d'.negative u hu) d'.negative u j = some d := by
      refine exists_withDigits? (m := d'.coefficient) ?_
      rwa [← hplace]
    rw [hbefore j (by omega) (by dsimp only at hlt; omega)] at hsome
    exact nomatch hsome

/-- A shortest decimal has the sign of its double. -/
theorem IsShortest.negative_eq {hu : Representable u} (h : IsShortest negative hu d) :
    d.negative = negative := by
  obtain ⟨a, e, he, ha⟩ := exists_units d
  exact ((ofDecimal_eq_finite_iff he ha).1 h.rounds).1

/-- A decimal that is rounded to a double other than zero has its point near its digits. -/
theorem pointPlace_bounds {hu : Representable u} (hne : u ≠ 0)
    (h : ofDecimal d = finite negative u hu) : -400 ≤ d.pointPlace ∧ d.pointPlace ≤ 400 := by
  unfold ofDecimal at h
  split at h
  · rw [zero, finite.injEq] at h
    exact absurd h.2.symm hne
  · next hlow =>
    split at h
    · cases h
    · omega

/-- **Every finite double has a shortest decimal,** which is rounded to it. -/
theorem exists_shortest?_of_isFinite {x : Binary64} (h : x.isFinite = true) :
    ∃ d, shortest? x = some d ∧ ofDecimal d = x ∧ d.coefficient ≤ 10 ^ 17 ∧
      d.pointPlace.natAbs ≤ 400 := by
  cases x with
  | nan => cases h
  | infinite negative => cases h
  | finite negative u hu =>
    -- Zero has no leading place, so it is set apart by the search and here.
    by_cases hzero : u = 0
    · subst hzero
      refine ⟨⟨negative, 0, 0⟩, rfl, ?_, Nat.zero_le _, ?_⟩
      · cases negative <;> rfl
      · cases negative <;> decide
    · obtain ⟨d, hd, hshortest⟩ := isShortest_shortest? negative hu hzero
      have hplace := pointPlace_bounds hzero hshortest.rounds
      exact ⟨d, hd, hshortest.rounds, hshortest.coefficient_le, by omega⟩

/-- A double is the nearest one to every decimal that is rounded to it. -/
theorem isNearest_of_ofDecimal {x : Binary64} (hx : x.isFinite = true) (h : ofDecimal d = x) :
    x.IsNearest d.value := by
  cases x with
  | nan => cases hx
  | infinite negative => cases hx
  | finite negative u hu =>
    obtain ⟨a, e, he, ha⟩ := exists_units d
    have hunits := ((ofDecimal_eq_finite_iff he ha).1 h).2
    have hscale : (scale : ℚ) ≠ 0 := Nat.cast_ne_zero.2 scale_pos.ne'
    rw [← h, ofDecimal_eq_round d he ha, Decimal.value, ← mul_div_cancel_right₀ d.size hscale, ← ha]
    exact isNearest_round d.negative a he (hunits ▸ hu.1)

end Binary64
end Lottery
