/-
# Rounding to the nearest double

`round` takes `a / d` units to `nearestUnits a d`, a number of units with no
more than 53 binary digits, zeros behind them aside (`Short`).

| statement | what it says of `nearestUnits a d` |
| --- | --- |
| `nearestUnits_near` | no short number is nearer to `a / d` |
| `nearestUnits_even` | if another one is as near, its significand is even |
| `nearestUnits_congr` | it depends on the fraction alone |
| `nearestUnits_mono` | a greater fraction does not give less |
| `nearestUnits_of_near` | a fraction within `2 ^ -54` of a short number gives it |

So a double that is rounded to is the nearest one there is, and of two the one
with the even significand (`isNearest_round`).
-/

import Lottery.Binary64.Basic
import Lottery.Proofs.Decimal.Size
import Mathlib.Data.Nat.Cast.Order.Field
import Mathlib.Tactic.FieldSimp
import Mathlib.Tactic.LinearCombination

namespace Lottery
namespace Binary64

variable {a d a' d' u v s n k : Nat}

/-! ### The nearest whole number -/

/-- No whole number is nearer than one within a half. -/
theorem abs_sub_le_of_half {q : ℚ} {m : ℤ} (h : |(m : ℚ) - q| ≤ 1 / 2) (k : ℤ) :
    |(m : ℚ) - q| ≤ |(k : ℚ) - q| := by
  rcases eq_or_ne k m with rfl | hne
  · exact le_rfl
  · have hone : (1 : ℚ) ≤ |(k : ℚ) - m| := by
      exact_mod_cast Int.one_le_abs (sub_ne_zero.2 hne)
    have htriangle := abs_sub_le (k : ℚ) q m
    rw [abs_sub_comm q] at htriangle
    linarith

/-- If another whole number is as near, both are a half away. -/
theorem abs_sub_eq_half {q : ℚ} {m k : ℤ} (h : |(m : ℚ) - q| ≤ 1 / 2) (hne : k ≠ m)
    (htie : |(m : ℚ) - q| = |(k : ℚ) - q|) : |(m : ℚ) - q| = 1 / 2 := by
  have hone : (1 : ℚ) ≤ |(k : ℚ) - m| := by
    exact_mod_cast Int.one_le_abs (sub_ne_zero.2 hne)
  have htriangle := abs_sub_le (k : ℚ) q m
  rw [abs_sub_comm q] at htriangle
  linarith

/-- Rounding to a whole number is off by at most a half. -/
theorem abs_halfEven_sub_le (a : Nat) (hd : 0 < d) : |(halfEven a d : ℚ) - a / d| ≤ 1 / 2 := by
  obtain ⟨hbelow, habove⟩ := halfEven_near (a := a) hd
  have hpos : (0 : ℚ) < d := by exact_mod_cast hd
  have hbelow' : 2 * (a : ℚ) ≤ 2 * (halfEven a d * d) + d := by exact_mod_cast hbelow
  have habove' : 2 * (halfEven a d * d : ℚ) ≤ 2 * a + d := by exact_mod_cast habove
  have hle : (a : ℚ) / d ≤ halfEven a d + 1 / 2 := by
    rw [div_le_iff₀ hpos]
    linarith
  have hge : (halfEven a d : ℚ) - 1 / 2 ≤ a / d := by
    rw [le_div_iff₀ hpos]
    linarith
  rw [abs_le]
  constructor <;> linarith

/-- The nearest whole number is the one below or the one above, and halfway the even one. -/
theorem halfEven_cases (a d : Nat) :
    (halfEven a d = a / d ∧ 2 * (a % d) ≤ d ∧ (2 * (a % d) = d → a / d % 2 = 0)) ∨
      (halfEven a d = a / d + 1 ∧ d ≤ 2 * (a % d) ∧ (2 * (a % d) = d → a / d % 2 = 1)) := by
  -- Below the half, above it, and on it by the parity of the quotient.
  unfold halfEven
  dsimp only
  split
  · exact .inl ⟨rfl, by omega⟩
  · split
    · exact .inr ⟨rfl, by omega⟩
    · split
      · exact .inl ⟨rfl, by omega⟩
      · exact .inr ⟨rfl, by omega⟩

/-- A tie goes to the even number. -/
theorem halfEven_mod_two (hd : 0 < d) (h : |(halfEven a d : ℚ) - a / d| = 1 / 2) :
    halfEven a d % 2 = 0 := by
  have hpos : (0 : ℚ) < d := by exact_mod_cast hd
  have ha : (a : ℚ) / d * d = a := div_mul_cancel₀ _ hpos.ne'
  -- As integers: twice the rounded number is the same distance above or below twice the quotient.
  have htie : 2 * (halfEven a d * d) = 2 * a + d ∨ 2 * (halfEven a d * d) + d = 2 * a := by
    rcases eq_or_eq_neg_of_abs_eq h with h | h
    · refine .inl ?_
      have : 2 * (halfEven a d * d : ℚ) = 2 * a + d := by rw [← ha]; linear_combination 2 * d * h
      exact_mod_cast this
    · refine .inr ?_
      have : 2 * (halfEven a d * d : ℚ) + d = 2 * a := by rw [← ha]; linear_combination 2 * d * h
      exact_mod_cast this
  have hdiv := Nat.div_add_mod a d
  rw [Nat.mul_comm] at hdiv
  have hmod := Nat.mod_lt a hd
  have hsucc : (a / d + 1) * d = a / d * d + d := Nat.succ_mul _ _
  -- Rounding down happens on a tie only if the quotient is even, rounding up only if it is odd.
  rcases halfEven_cases a d with ⟨he, hle, heven⟩ | ⟨he, hle, heven⟩
  · rw [he] at htie ⊢
    omega
  · rw [he, hsucc] at htie
    rw [he]
    omega

/-- A fraction that is not reduced is rounded like the reduced one. -/
theorem halfEven_mul_right (a d : Nat) (hn : 0 < n) : halfEven (a * n) (d * n) = halfEven a d := by
  have hlt : 2 * (a % d * n) < d * n ↔ 2 * (a % d) < d := by
    rw [← Nat.mul_assoc, Nat.mul_lt_mul_right hn]
  have hgt : d * n < 2 * (a % d * n) ↔ d < 2 * (a % d) := by
    rw [← Nat.mul_assoc, Nat.mul_lt_mul_right hn]
  simp only [halfEven, Nat.mul_div_mul_right _ _ hn, Nat.mul_mod_mul_right, hlt, hgt]

/-! ### Numbers with few binary digits -/

/-- A number with no more than 53 binary digits, zeros behind them aside. -/
def Short (u : Nat) : Prop :=
  u % (1 <<< (u.log2 - 52)) = 0

/-- A number is short if all binary digits after its first 53 are zero. -/
theorem short_iff_dvd : Short u ↔ 2 ^ (u.log2 - 52) ∣ u := by
  rw [Short, Nat.one_shiftLeft, Nat.dvd_iff_mod_eq_zero]

/-- On a grid of a power of two a short number is a point, or it is below the `2 ^ 52`th. -/
theorem Short.dvd_or_lt (h : Short u) (s : Nat) : 2 ^ s ∣ u ∨ 0 < s ∧ u < 2 ^ (s + 52) := by
  rcases Nat.lt_or_ge (u.log2 - 52) s with hs | hs
  · refine .inr ⟨by omega, Nat.lt_log2_self.trans_le (Nat.pow_le_pow_right (by decide) (by omega))⟩
  · exact .inl ((Nat.pow_dvd_pow 2 hs).trans (short_iff_dvd.1 h))

/-- A number of no more than 53 binary digits keeps its last place, wherever it stands. -/
theorem log2_mul_le (hn : n < 2 ^ 53) (k : Nat) : (n * 2 ^ k).log2 - 52 ≤ k := by
  rcases Nat.eq_zero_or_pos n with rfl | hpos
  · simp
  · have hne : n * 2 ^ k ≠ 0 := Nat.ne_of_gt (Nat.mul_pos hpos (Nat.two_pow_pos k))
    have hlog : (n * 2 ^ k).log2 < 53 + k := by
      rw [Nat.log2_lt hne, Nat.pow_add]
      exact Nat.mul_lt_mul_of_pos_right hn (Nat.two_pow_pos k)
    omega

/-- At most `2 ^ 53` times a power of two is short. -/
theorem short_mul (hn : n ≤ 2 ^ 53) (k : Nat) : Short (n * 2 ^ k) := by
  rw [short_iff_dvd]
  rcases Nat.lt_or_eq_of_le hn with hlt | rfl
  · exact (Nat.pow_dvd_pow 2 (log2_mul_le hlt k)).trans (Nat.dvd_mul_left _ n)
  · rw [← Nat.pow_add, Nat.log2_two_pow]
    exact Nat.pow_dvd_pow 2 (by omega)

/-- The same, with zeros put behind. -/
theorem short_shiftLeft (hn : n ≤ 2 ^ 53) (k : Nat) : Short (n <<< k) := by
  rw [Nat.shiftLeft_eq]
  exact short_mul hn k

/-- A power of two is short. -/
theorem short_one_shiftLeft (k : Nat) : Short (1 <<< k) :=
  short_shiftLeft (by decide) k

/-- A number has at least as many binary digits as a smaller one. -/
theorem log2_le_log2 (h : u ≤ v) : u.log2 ≤ v.log2 := by
  rcases Nat.eq_zero_or_pos u with rfl | hu
  · simp
  · exact (Nat.le_log2 (by omega)).2 ((Nat.log2_self_le (by omega)).trans h)

/-- A point above a number on the grid of its last place is not nearer than that place. -/
theorem le_two_pow_mul_sub (hu : Short u) (hlt : u < v) (hv : 2 ^ (u.log2 - 52) ∣ v) :
    2 ^ (u.log2 + 1) ≤ 2 ^ 53 * (v - u) := by
  have hgap : 2 ^ (u.log2 - 52) ≤ v - u :=
    Nat.le_of_dvd (by omega) (Nat.dvd_sub hv (short_iff_dvd.1 hu))
  calc 2 ^ (u.log2 + 1) ≤ 2 ^ (53 + (u.log2 - 52)) := Nat.pow_le_pow_right (by decide) (by omega)
    _ = 2 ^ 53 * 2 ^ (u.log2 - 52) := Nat.pow_add _ _ _
    _ ≤ 2 ^ 53 * (v - u) := Nat.mul_le_mul_left _ hgap

/-- Two short numbers are at least `2 ^ -53` of the first apart. -/
theorem Short.le_of_ne (hu : Short u) (hv : Short v) (hne : v ≠ u) :
    (u : ℚ) ≤ 2 ^ 53 * |(v : ℚ) - u| := by
  -- The gap beside a short number is set by the digits of the smaller of the two.
  rcases Nat.lt_or_gt_of_ne hne with hlt | hlt
  · have hgap : u ≤ 2 ^ 53 * (u - v) := by
      rcases Nat.le_total u (2 ^ (v.log2 + 1)) with hle | hle
      · have hdvd : 2 ^ (v.log2 - 52) ∣ u :=
          (Nat.pow_dvd_pow 2 (Nat.sub_le_sub_right (log2_le_log2 hlt.le) 52)).trans
            (short_iff_dvd.1 hu)
        exact hle.trans (le_two_pow_mul_sub hv hlt hdvd)
      · -- The power of two in between is already far enough from `v`.
        have hbetween := le_two_pow_mul_sub hv Nat.lt_log2_self (Nat.pow_dvd_pow 2 (by omega))
        have hscale : v < 2 ^ (v.log2 + 1) := Nat.lt_log2_self
        omega
    rw [abs_sub_comm, abs_of_pos (sub_pos.2 (by exact_mod_cast hlt)), ← Nat.cast_sub hlt.le]
    exact_mod_cast hgap
  · have hgap : u ≤ 2 ^ 53 * (v - u) := by
      have hdvd : 2 ^ (u.log2 - 52) ∣ v :=
        (Nat.pow_dvd_pow 2 (Nat.sub_le_sub_right (log2_le_log2 hlt.le) 52)).trans
          (short_iff_dvd.1 hv)
      exact Nat.lt_log2_self.le.trans (le_two_pow_mul_sub hu hlt hdvd)
    rw [abs_of_pos (sub_pos.2 (by exact_mod_cast hlt)), ← Nat.cast_sub hlt.le]
    exact_mod_cast hgap

/-! ### The nearest number of units -/

/-- The number of units that `a / d` units are rounded to. -/
def nearestUnits (a d : Nat) : Nat :=
  halfEven a (d <<< ((a / d).log2 - 52)) <<< ((a / d).log2 - 52)

/-- Rounding gives the nearest units, or an infinity if these are beyond the doubles. -/
theorem round_eq (negative : Bool) (a d : Nat) : round negative a d =
    if h : Representable (nearestUnits a d) then .finite negative (nearestUnits a d) h
    else .infinite negative :=
  rfl

/-- An infinity is no finite double. -/
theorem infinite_ne_finite {s t : Bool} (h : Representable u) : infinite s ≠ finite t u h := by
  intro heq
  cases heq

/-- It is the nearest point of a grid on which the fraction is below the `2 ^ 53`th point, and not
below the `2 ^ 52`th unless the grid is that of the units. -/
theorem exists_nearestUnits_eq (a d : Nat) :
    ∃ s, nearestUnits a d = halfEven a (d * 2 ^ s) * 2 ^ s ∧ a / d < 2 ^ (s + 53) ∧
      (0 < s → 2 ^ (s + 52) ≤ a / d) := by
  refine ⟨(a / d).log2 - 52, ?_, ?_, fun hs => ?_⟩
  · rw [nearestUnits, Nat.shiftLeft_eq, Nat.shiftLeft_eq]
  · exact Nat.lt_log2_self.trans_le (Nat.pow_le_pow_right (by decide) (by omega))
  · rw [Nat.sub_add_cancel (by omega)]
    refine Nat.log2_self_le fun hzero => ?_
    rw [hzero] at hs
    simp at hs

/-- It depends on the fraction alone. -/
theorem nearestUnits_congr (hd : 0 < d) (hd' : 0 < d') (h : a * d' = a' * d) :
    nearestUnits a d = nearestUnits a' d' := by
  have hscale : ∀ a d n : Nat, 0 < n → nearestUnits (a * n) (d * n) = nearestUnits a d := by
    intro a d n hn
    simp only [nearestUnits, Nat.mul_div_mul_right _ _ hn, Nat.shiftLeft_eq]
    rw [Nat.mul_right_comm, halfEven_mul_right _ _ hn]
  rw [← hscale a d d' hd', h, ← hscale a' d' d hd, Nat.mul_comm d]

/-- Below `2 ^ (s + 53)` no more than `2 ^ 53` steps of `2 ^ s` are counted, also after rounding up.
-/
theorem halfEven_le (h : a / d < 2 ^ (s + 53)) : halfEven a (d * 2 ^ s) ≤ 2 ^ 53 := by
  have hquotient : a / (d * 2 ^ s) < 2 ^ 53 := by
    rw [← Nat.div_div_eq_div_mul, Nat.div_lt_iff_lt_mul (Nat.two_pow_pos s), ← Nat.pow_add,
      Nat.add_comm]
    exact h
  rcases halfEven_cases a (d * 2 ^ s) with ⟨he, _⟩ | ⟨he, _⟩ <;> omega

/-- **What a number of units is rounded to is short.** -/
theorem short_nearestUnits (a d : Nat) : Short (nearestUnits a d) := by
  obtain ⟨s, hs, hlt, -⟩ := exists_nearestUnits_eq a d
  rw [hs]
  exact short_mul (halfEven_le hlt) s

/-- No point of the grid of what is rounded to is nearer, and none is as near unless the point is
even. -/
theorem grid_nearest (a s k : Nat) (hd : 0 < d) :
    |((halfEven a (d * 2 ^ s) * 2 ^ s : Nat) : ℚ) - a / d| ≤ |((k * 2 ^ s : Nat) : ℚ) - a / d| ∧
      (|((halfEven a (d * 2 ^ s) * 2 ^ s : Nat) : ℚ) - a / d| = |((k * 2 ^ s : Nat) : ℚ) - a / d| →
        k ≠ halfEven a (d * 2 ^ s) → halfEven a (d * 2 ^ s) % 2 = 0) := by
  have hP : (0 : ℚ) < 2 ^ s := by positivity
  have hD : 0 < d * 2 ^ s := Nat.mul_pos hd (Nat.two_pow_pos s)
  -- Distances on the grid are those between integers, `2 ^ s` times over.
  have hscale : ∀ m : Nat, |((m * 2 ^ s : Nat) : ℚ) - a / d| =
      |((m : ℤ) : ℚ) - a / (d * 2 ^ s : Nat)| * 2 ^ s := by
    intro m
    have hd0 : (d : ℚ) ≠ 0 := by exact_mod_cast hd.ne'
    rw [← abs_of_pos hP, ← abs_mul]
    congr 1
    push_cast
    field_simp
  have hhalf : |((halfEven a (d * 2 ^ s) : ℤ) : ℚ) - a / (d * 2 ^ s : Nat)| ≤ 1 / 2 := by
    exact_mod_cast abs_halfEven_sub_le a hD
  rw [hscale, hscale]
  refine ⟨mul_le_mul_of_nonneg_right (abs_sub_le_of_half hhalf k) hP.le, fun htie hne => ?_⟩
  have hsame := mul_right_cancel₀ hP.ne' htie
  refine halfEven_mod_two hD ?_
  exact_mod_cast abs_sub_eq_half hhalf (by exact_mod_cast hne) hsame

/-- The significand is even: the number is a point of the next coarser grid. -/
def EvenUnits (u : Nat) : Prop :=
  u % (2 <<< (u.log2 - 52)) = 0

/-- A short number that is no point of the grid is farther than one that is. -/
theorem exists_lt_of_not_dvd (hge : 0 < s → 2 ^ (s + 52) ≤ a / d) (hv : Short v)
    (hdvd : ¬2 ^ s ∣ v) : |((2 ^ 52 * 2 ^ s : Nat) : ℚ) - a / d| < |(v : ℚ) - a / d| := by
  obtain ⟨hpos, hlt⟩ := (hv.dvd_or_lt s).resolve_left hdvd
  rw [Nat.add_comm, Nat.pow_add] at hlt
  -- The least point of the grid stands between `v` and the quotient.
  have hge' : 2 ^ 52 * 2 ^ s ≤ a / d := by
    rw [← Nat.pow_add, Nat.add_comm]
    exact hge hpos
  have hbelow : (v : ℚ) < (2 ^ 52 * 2 ^ s : Nat) := Nat.cast_lt.2 hlt
  have habove : ((2 ^ 52 * 2 ^ s : Nat) : ℚ) ≤ a / d := (Nat.cast_le.2 hge').trans Nat.cast_div_le
  generalize ((2 ^ 52 * 2 ^ s : Nat) : ℚ) = point at hbelow habove ⊢
  rw [abs_of_nonpos (by linarith), abs_of_nonpos (by linarith)]
  linarith

/-- **No short number is nearer.** -/
theorem nearestUnits_near (a : Nat) (hd : 0 < d) (hv : Short v) :
    |(nearestUnits a d : ℚ) - a / d| ≤ |(v : ℚ) - a / d| := by
  obtain ⟨s, hs, -, hge⟩ := exists_nearestUnits_eq a d
  rw [hs]
  by_cases hdvd : 2 ^ s ∣ v
  · obtain ⟨k, rfl⟩ := hdvd
    rw [Nat.mul_comm (2 ^ s) k]
    exact (grid_nearest a s k hd).1
  · exact (grid_nearest a s (2 ^ 52) hd).1.trans (exists_lt_of_not_dvd hge hv hdvd).le

/-- An even number of no more than 53 binary digits is an even significand, wherever it stands. -/
theorem evenUnits_mul (hn : n ≤ 2 ^ 53) (heven : n % 2 = 0) (k : Nat) : EvenUnits (n * 2 ^ k) := by
  rw [EvenUnits, Nat.shiftLeft_eq, ← Nat.dvd_iff_mod_eq_zero]
  rcases Nat.lt_or_eq_of_le hn with hlt | rfl
  · exact Nat.mul_dvd_mul (Nat.dvd_of_mod_eq_zero heven)
      (Nat.pow_dvd_pow 2 (log2_mul_le hlt k))
  · rw [← Nat.pow_add, Nat.log2_two_pow, ← Nat.pow_succ']
    exact Nat.pow_dvd_pow 2 (by omega)

/-- **If another short number is as near, the significand is even.** -/
theorem nearestUnits_even (a : Nat) (hd : 0 < d) (hv : Short v) (hne : v ≠ nearestUnits a d)
    (htie : |(nearestUnits a d : ℚ) - a / d| = |(v : ℚ) - a / d|) :
    EvenUnits (nearestUnits a d) := by
  obtain ⟨s, hs, hlt, hge⟩ := exists_nearestUnits_eq a d
  rw [hs] at hne htie ⊢
  -- Off the grid nothing is as near as the grid is, so there is no tie.
  by_cases hdvd : 2 ^ s ∣ v
  · obtain ⟨k, rfl⟩ := hdvd
    rw [Nat.mul_comm (2 ^ s) k] at hne htie
    have heven := (grid_nearest a s k hd).2 htie fun h => hne (by rw [h])
    exact evenUnits_mul (halfEven_le hlt) heven s
  · have hfar := exists_lt_of_not_dvd hge hv hdvd
    rw [← htie] at hfar
    exact absurd (grid_nearest a s (2 ^ 52) hd).1 (not_le.2 hfar)

/-- What is no nearer to the lesser of two numbers is not below their middle. -/
theorem add_le_two_mul {p q r : ℚ} (hlt : r < p) (h : |p - q| ≤ |r - q|) : p + r ≤ 2 * q := by
  have hsquare := sq_le_sq.2 h
  have hproduct : (p - r) * (p + r - 2 * q) ≤ 0 := by linarith
  linarith [nonpos_of_mul_nonpos_right hproduct (sub_pos.2 hlt)]

/-- What is no nearer to the greater one is not above it. -/
theorem two_mul_le_add {p q r : ℚ} (hlt : p < r) (h : |p - q| ≤ |r - q|) : 2 * q ≤ p + r := by
  have hsquare := sq_le_sq.2 h
  have hproduct : (r - p) * (2 * q - (p + r)) ≤ 0 := by linarith
  linarith [nonpos_of_mul_nonpos_right hproduct (sub_pos.2 hlt)]

/-- **A greater fraction is not rounded to less.** -/
theorem nearestUnits_mono (hd : 0 < d) (hd' : 0 < d') (h : (a : ℚ) / d ≤ a' / d') :
    nearestUnits a d ≤ nearestUnits a' d' := by
  by_contra hlt
  have hlt' : (nearestUnits a' d' : ℚ) < nearestUnits a d := by exact_mod_cast not_le.1 hlt
  -- Each fraction is on its own side of the middle, so both are the middle.
  have hmiddle := add_le_two_mul hlt' (nearestUnits_near a hd (short_nearestUnits a' d'))
  have hmiddle' := two_mul_le_add hlt' (nearestUnits_near a' hd' (short_nearestUnits a d))
  have hsame : (a : ℚ) / d = a' / d' := by linarith
  have hd0 : (d : ℚ) ≠ 0 := by exact_mod_cast hd.ne'
  have hd0' : (d' : ℚ) ≠ 0 := by exact_mod_cast hd'.ne'
  rw [div_eq_div_iff hd0 hd0'] at hsame
  rw [nearestUnits_congr hd hd' (by exact_mod_cast hsame)] at hlt
  exact hlt le_rfl

/-- **A fraction that is nearer than `2 ^ -54` of a short number is rounded to it.** -/
theorem nearestUnits_of_near (hd : 0 < d) (hu : Short u)
    (h : 2 ^ 54 * |(a : ℚ) / d - u| < u) : nearestUnits a d = u := by
  by_contra hne
  have hgap := hu.le_of_ne (short_nearestUnits a d) hne
  have hnear := nearestUnits_near a hd hu
  have htriangle := abs_sub_le (nearestUnits a d : ℚ) (a / d) u
  rw [abs_sub_comm (u : ℚ)] at hnear
  linarith

/-- A short number of units is its own. -/
theorem nearestUnits_of_short (hu : Short u) : nearestUnits u 1 = u := by
  have hnear := nearestUnits_near u Nat.one_pos hu
  rw [Nat.cast_one, div_one, sub_self, abs_zero] at hnear
  exact_mod_cast sub_eq_zero.1 (abs_nonpos_iff.1 hnear)

/-- A short number that is not below a fraction is not below what the fraction is rounded to. -/
theorem nearestUnits_le (hd : 0 < d) (hv : Short v) (h : (a : ℚ) / d ≤ v) :
    nearestUnits a d ≤ v := by
  rw [← nearestUnits_of_short hv]
  exact nearestUnits_mono hd Nat.one_pos (by rwa [Nat.cast_one, div_one])

/-- Nor does rounding go below a short number that is not above the fraction. -/
theorem le_nearestUnits (hd : 0 < d) (hv : Short v) (h : (v : ℚ) ≤ a / d) :
    v ≤ nearestUnits a d := by
  rw [← nearestUnits_of_short hv]
  exact nearestUnits_mono Nat.one_pos hd (by rwa [Nat.cast_one, div_one])

/-! ### Doubles -/

/-- The units of 1. -/
def scale : Nat := 1 <<< 1074

/-- There are units in 1. -/
theorem scale_pos : 0 < scale := by
  rw [scale, Nat.one_shiftLeft]
  exact Nat.two_pow_pos 1074

/-- Whole numbers are turned into units by a shift. -/
theorem shiftLeft_eq_mul_scale (n : Nat) : n <<< 1074 = n * scale := by
  rw [scale, Nat.one_shiftLeft, Nat.shiftLeft_eq]

/-- The number that a finite double is. -/
def value : Binary64 → ℚ
  | .finite negative u _ => signed negative u / scale
  | _ => 0

/-- The significand of a finite double is even. -/
def HasEvenSignificand : Binary64 → Prop
  | .finite _ u _ => EvenUnits u
  | _ => False

/-- **The double nearest to a number,** of two the one with the even significand. -/
structure IsNearest (x : Binary64) (q : ℚ) : Prop where
  isFinite : x.isFinite = true
  near : ∀ y : Binary64, y.isFinite = true → |x.value - q| ≤ |y.value - q|
  even : ∀ y : Binary64, y.isFinite = true → y.value ≠ x.value →
    |x.value - q| = |y.value - q| → x.HasEvenSignificand

/-- The value of a finite double is that of its units, with its sign. -/
theorem value_finite (negative : Bool) (h : Representable u) :
    (finite negative u h).value = withSign negative (u / scale) := by
  cases negative <;> simp [value, signed, withSign, neg_div]

/-- Numbers of one sign are no farther from each other than their sizes under any signs. -/
theorem abs_sub_le_withSign (s t : Bool) {p q : ℚ} (hp : 0 ≤ p) (hq : 0 ≤ q) :
    |p - q| ≤ |withSign t p - withSign s q| := by
  have h := abs_abs_sub_abs_le (withSign t p) (withSign s q)
  rwa [abs_withSign, abs_withSign, abs_of_nonneg hp, abs_of_nonneg hq] at h

/-- A number and its opposite are equally far from zero only. -/
theorem eq_zero_of_abs_withSign_eq {s t : Bool} {p q : ℚ} (hne : withSign t p ≠ withSign s p)
    (h : |withSign s p - withSign s q| = |withSign t p - withSign s q|) : q = 0 := by
  have hp : p ≠ 0 := by
    rintro rfl
    exact hne (by cases s <;> cases t <;> simp [withSign])
  -- Opposite numbers are equally far from zero alone.
  have hcases : ∀ p q : ℚ, p ≠ 0 → |p - q| = |-p - q| → q = 0 := by
    intro p q hp h
    rcases abs_eq_abs.1 h with h | h
    · exact absurd (by linarith) hp
    · linarith
  cases s <;> cases t
  · exact absurd rfl hne
  · exact hcases p q hp h
  · exact neg_eq_zero.1 (hcases (-p) (-q) (neg_ne_zero.2 hp) (by simpa [withSign] using h))
  · exact absurd rfl hne

/-- **What is rounded to is the nearest double,** as long as it is one. -/
theorem isNearest_round (negative : Bool) (a : Nat) (hd : 0 < d)
    (h : nearestUnits a d < 1 <<< 2098) :
    (round negative a d).IsNearest (withSign negative (a / d / scale)) := by
  have hr : Representable (nearestUnits a d) := ⟨h, short_nearestUnits a d⟩
  have hscale : (0 : ℚ) < scale := Nat.cast_pos.2 scale_pos
  -- Distances are compared in units; a number with the other sign is no nearer.
  have hdist : ∀ u : Nat,
      |(u : ℚ) / scale - a / d / scale| = |(u : ℚ) - a / d| / scale := by
    intro u
    rw [← sub_div, abs_div, abs_of_pos hscale]
  have hbetween : ∀ (t : Bool) (v : Nat), |(v : ℚ) - a / d| / scale ≤
      |withSign t (v / scale) - withSign negative (a / d / scale)| := by
    intro t v
    rw [← hdist]
    exact abs_sub_le_withSign negative t (div_nonneg v.cast_nonneg hscale.le)
      (div_nonneg (div_nonneg a.cast_nonneg d.cast_nonneg) hscale.le)
  rw [round_eq, dif_pos hr]
  -- Nearness and evenness are shown of a finite `y`, the only kind that has a value.
  refine ⟨rfl, fun y hy => ?_, fun y hy hne htie => ?_⟩ <;> cases y with
  | nan | infinite t => cases hy
  | finite t v hv => ?_
  · rw [value_finite, value_finite, abs_withSign_sub, hdist]
    exact (div_le_div_of_nonneg_right (nearestUnits_near a hd hv.2) hscale.le).trans
      (hbetween t v)
  · rw [value_finite, value_finite] at hne htie
    by_cases hvu : v = nearestUnits a d
    · -- The opposite is as near to zero only, and that is zero.
      rw [hvu] at hne htie
      have hquotient := eq_zero_of_abs_withSign_eq hne htie
      have hzero := (div_eq_zero_iff.1 hquotient).resolve_right hscale.ne'
      have hle : nearestUnits a d ≤ 0 :=
        nearestUnits_le hd (Nat.zero_mod _) (by rw [hzero, Nat.cast_zero])
      show EvenUnits _
      rw [Nat.le_zero.1 hle]
      exact Nat.zero_mod _
    · refine nearestUnits_even a hd hv.2 hvu ((nearestUnits_near a hd hv.2).antisymm ?_)
      have hle := hbetween t v
      rw [← htie, abs_withSign_sub, hdist, div_le_div_iff_of_pos_right hscale] at hle
      exact hle

end Binary64
end Lottery
