/-
# Whole numbers up to 2^53 are not rounded

A number of units that is representable is its own double
(`round_of_representable`), and a whole number up to `2^53` in size is a
representable number of units (`representable_shiftLeft`).  So whole numbers
of that size are doubles exactly, and so are their sums (`IsWhole.add`): stakes
that are added to a whole amount add up as long as the total stays there
(`IsWhole.addsUp`).
-/

import Lottery.Proofs.Binary64.Nearest
import Lottery.Proofs.Binary64.Sums

namespace Lottery
namespace Binary64

variable {x y : Binary64} {a b : Int}

/-! ### Representable numbers of units -/

/-- **A representable number of units is its own double.** -/
theorem round_of_representable (negative : Bool) {u : Nat} (h : Representable u) :
    round negative u 1 = .finite negative u h := by
  rw [round_eq]
  simp only [nearestUnits_of_short h.2, dif_pos h]

/-- No more than 53 binary digits, zeros behind them aside. -/
theorem representable_shiftLeft {n k : Nat} (hn : n ≤ 2 ^ 53) (hk : k ≤ 2044) :
    Representable (n <<< k) := by
  refine ⟨?_, short_shiftLeft hn k⟩
  rw [Nat.shiftLeft_eq, Nat.one_shiftLeft]
  calc n * 2 ^ k ≤ 2 ^ 53 * 2 ^ k := Nat.mul_le_mul_right _ hn
    _ = 2 ^ (53 + k) := (Nat.pow_add 2 53 k).symm
    _ < 2 ^ 2098 := Nat.pow_lt_pow_right (by decide) (by omega)

/-- An integer is its size with its sign. -/
theorem signed_natAbs (n : Int) : signed (decide (n < 0)) n.natAbs = n := by
  unfold signed
  split
  · next h =>
    have := of_decide_eq_true h
    omega
  · next h =>
    have : ¬ n < 0 := fun hn => h (decide_eq_true hn)
    omega

/-! ### Whole numbers -/

/-- A finite double that is a whole number. -/
def IsWhole (x : Binary64) (n : Int) : Prop :=
  x.isFinite = true ∧ x.place? = some (n * perWhole)

/-- Zeros behind an integer are zeros behind its size. -/
theorem natAbs_mul_shiftLeft (n : Int) (k : Nat) :
    (n * ((1 <<< k : Nat) : Int)).natAbs = n.natAbs <<< k := by
  rw [Int.natAbs_mul, Int.natAbs_natCast, Nat.one_shiftLeft, Nat.shiftLeft_eq]

/-- The size of an integer in units. -/
theorem natAbs_mul_perWhole (n : Int) : (n * perWhole).natAbs = n.natAbs <<< 1074 :=
  natAbs_mul_shiftLeft n 1074

/-- **A whole number of at most `2 ^ 53` is not rounded.** -/
theorem isWhole_round {n : Int} (h : n.natAbs ≤ 2 ^ 53) :
    (round (decide (n * perWhole < 0)) (n * perWhole).natAbs 1).IsWhole n := by
  have hr : Representable (n * perWhole).natAbs := by
    rw [natAbs_mul_perWhole]
    exact representable_shiftLeft h (by decide)
  rw [round_of_representable _ hr]
  exact ⟨rfl, congrArg some (signed_natAbs _)⟩

/-- There are units in 1. -/
theorem perWhole_pos : 0 < perWhole := by decide +kernel

/-- An integer becomes the double nearest to its units. -/
theorem ofInt_eq_round (n : Int) :
    ofInt n = round (decide (n * perWhole < 0)) (n * perWhole).natAbs 1 := by
  have hneg : n * perWhole < 0 ↔ n < 0 := by
    have := Int.mul_lt_mul_right (b := n) (c := 0) perWhole_pos
    rwa [Int.zero_mul] at this
  rw [natAbs_mul_perWhole, ofInt, decide_eq_decide.2 hneg]

/-- So an integer of at most `2 ^ 53` becomes itself. -/
theorem isWhole_ofInt {n : Int} (h : n.natAbs ≤ 2 ^ 53) : (ofInt n).IsWhole n := by
  rw [ofInt_eq_round]
  exact isWhole_round h

/-- Zero is a whole amount. -/
theorem isWhole_zero : (zero false).IsWhole 0 :=
  ⟨rfl, by rw [Int.zero_mul]; rfl⟩

/-- Whole numbers are ordered like integers. -/
theorem IsWhole.lt_iff (hx : x.IsWhole a) (hy : y.IsWhole b) : x.lt y = true ↔ a < b := by
  rw [lt, hx.2, hy.2]
  dsimp only
  rw [decide_eq_true_iff]
  exact Int.mul_lt_mul_right perWhole_pos

/-- No other whole amount is zero. -/
theorem IsWhole.isZero_eq_false (hx : x.IsWhole a) (ha : a ≠ 0) : x.isZero = false := by
  obtain ⟨hxf, hx⟩ := hx
  cases x with
  | nan => cases hxf
  | infinite s => cases hxf
  | finite s u hu =>
    show (u == 0) = false
    rw [beq_eq_false_iff_ne]
    rintro rfl
    -- Without units the place is zero, so the whole number would be zero.
    have hzero : a * perWhole = 0 := by
      rw [← Option.some.inj hx, signed]
      cases s <;> rfl
    rcases Int.mul_eq_zero.1 hzero with h | h
    · exact ha h
    · exact Int.ne_of_gt perWhole_pos h

/-- **Whole numbers are added exactly.** -/
theorem IsWhole.add (hx : x.IsWhole a) (hy : y.IsWhole b) (h : (a + b).natAbs ≤ 2 ^ 53) :
    (x.add y).IsWhole (a + b) := by
  obtain ⟨hxf, hx⟩ := hx
  obtain ⟨hyf, hy⟩ := hy
  cases x with
  | nan => cases hxf
  | infinite s => cases hxf
  | finite s u hu =>
    cases y with
    | nan => cases hyf
    | infinite t => cases hyf
    | finite t v hv =>
      -- The exact sum of units is a whole number again, so rounding leaves it as it is.
      have hsum : signed s u + signed t v = (a + b) * perWhole := by
        rw [Int.add_mul, Option.some.inj hx, Option.some.inj hy]
      unfold Binary64.add
      dsimp only
      rw [hsum]
      split
      · next hzero =>
        refine ⟨rfl, ?_⟩
        rw [hzero]
        cases s && t <;> rfl
      · exact isWhole_round h

/-- **Stakes on a whole amount add up** as long as the total is no more than `2^53`. -/
theorem IsWhole.addsUp {ns : List Nat} {n : Nat} (hx : x.IsWhole n) (h : n + ns.sum ≤ 2 ^ 53) :
    x.AddsUp ns := by
  induction ns generalizing x n with
  | nil => trivial
  | cons m ns ih =>
    rw [List.sum_cons] at h
    -- The sum so far stays whole, so the next addition is exact too.
    have hadd : (x.add (ofInt m)).IsWhole ((n + m : Nat) : Int) := by
      rw [Int.natCast_add]
      exact hx.add (isWhole_ofInt (by omega)) (by omega)
    refine ⟨?_, ih hadd (by omega)⟩
    rw [hadd.2, hx.2, Option.map_some, Int.natCast_add, Int.add_mul]

end Binary64
end Lottery
