/-
# Doubles in order, and sums that are not rounded

`le` is the order of the places; of two doubles that are numbers one is at most
the other (`le_of_not_lt`), and both are only if they are the same or zeros
(`le_antisymm`).  Zeros add up to `0.0` (`sum_of_zeros`).  A sum of doubles may
be rounded, so stakes that are added one by one need not give what their sum
gives.  `AddsUp` says that no addition of a list of whole numbers is rounded;
then the place of the result is the exact sum (`AddsUp.place?_foldl`).
-/

import Lottery.Binary64.Basic
import Mathlib.Algebra.GroupWithZero.Nat

namespace Lottery
namespace Binary64

variable {x y : Binary64}

/-- At most; never so beside not a number. -/
def le (x y : Binary64) : Bool :=
  match x.place?, y.place? with
  | some a, some b => decide (a ≤ b)
  | _, _ => false

/-- At most means a place that is not behind the other's. -/
theorem le_eq_true_iff :
    x.le y = true ↔ ∃ a b, x.place? = some a ∧ y.place? = some b ∧ a ≤ b := by
  unfold le
  cases x.place? <;> cases y.place? <;> simp

/-- Between numbers, not being less is being at least. -/
theorem lt_eq_false_iff {a b : Int} (hx : x.place? = some a) (hy : y.place? = some b) :
    x.lt y = false ↔ b ≤ a := by
  rw [lt, hx, hy]
  simp

/-- All doubles that are numbers have a place, infinities too. -/
theorem exists_place? (h : x ≠ .nan) : ∃ a, x.place? = some a := by
  cases x with
  | nan => exact absurd rfl h
  | infinite s => exact ⟨_, rfl⟩
  | finite s u hu => exact ⟨_, rfl⟩

/-- **The order is total on numbers.** -/
theorem le_of_not_lt (hx : x ≠ .nan) (hy : y ≠ .nan) (h : y.lt x = false) : x.le y = true := by
  obtain ⟨a, ha⟩ := exists_place? hx
  obtain ⟨b, hb⟩ := exists_place? hy
  exact le_eq_true_iff.2 ⟨a, b, ha, hb, (lt_eq_false_iff hb ha).1 h⟩

/-- A number is at most itself; what is no number is not. -/
theorem le_refl (hx : x ≠ .nan) : x.le x = true := by
  obtain ⟨a, ha⟩ := exists_place? hx
  exact le_eq_true_iff.2 ⟨a, a, ha, ha, Int.le_refl a⟩

/-- What is less is at most. -/
theorem le_of_lt (h : x.lt y = true) : x.le y = true := by
  unfold lt at h
  split at h
  · next a b ha hb => exact le_eq_true_iff.2 ⟨a, b, ha, hb, Int.le_of_lt (of_decide_eq_true h)⟩
  · cases h

/-- A sign can be read off all but zero. -/
theorem signed_inj {s t : Bool} {u v : Nat} (h : signed s u = signed t v) (hu : u ≠ 0) :
    s = t ∧ u = v := by
  cases s <;> cases t <;> simp [signed] at h ⊢ <;> omega

/-- Doubles at one place are the same, zeros of different signs aside. -/
theorem eq_of_place?_eq (hx : x.isZero = false) {a : Int} (ha : x.place? = some a)
    (hb : y.place? = some a) : x = y := by
  have hpos : 1 <<< 2098 ≠ 0 := by decide +kernel
  have h : x.place? = y.place? := ha.trans hb.symm
  -- The place of an infinity is that of no finite double, which has fewer units.
  cases x with
  | nan => cases ha
  | infinite s =>
    cases y with
    | nan => cases hb
    | infinite t => rw [(signed_inj (Option.some.inj h) hpos).1]
    | finite t v hv =>
      exact absurd (signed_inj (Option.some.inj h) hpos).2 (Nat.ne_of_gt hv.1)
  | finite s u hu =>
    have hzero : u ≠ 0 := by simpa [isZero] using hx
    cases y with
    | nan => cases hb
    | infinite t => exact absurd (signed_inj (Option.some.inj h) hzero).2 (Nat.ne_of_lt hu.1)
    | finite t v hv =>
      obtain ⟨rfl, rfl⟩ := signed_inj (Option.some.inj h) hzero
      rfl

/-- Two doubles that are at most each other are the same, zeros of different signs aside. -/
theorem le_antisymm (hx : x.isZero = false) (h : x.le y = true) (h' : y.le x = true) : x = y := by
  obtain ⟨a, b, ha, hb, hab⟩ := le_eq_true_iff.1 h
  obtain ⟨b', a', hb', ha', hba⟩ := le_eq_true_iff.1 h'
  obtain rfl := Option.some.inj (ha.symm.trans ha')
  obtain rfl := Option.some.inj (hb.symm.trans hb')
  obtain rfl := Int.le_antisymm hab hba
  exact eq_of_place?_eq hx ha hb

/-- Rounding gives a number. -/
theorem round_ne_nan (negative : Bool) (a d : Nat) : round negative a d ≠ .nan := by
  unfold round
  dsimp only
  split <;> nofun

/-- A number stays one if a finite double is added. -/
theorem add_ne_nan (hx : x ≠ .nan) (hy : y.isFinite = true) : x.add y ≠ .nan := by
  -- Only infinities of opposite signs add up to nan, and `y` is none.
  cases y with
  | nan => cases hy
  | infinite t => cases hy
  | finite t v hv =>
    cases x with
    | nan => exact absurd rfl hx
    | infinite s => nofun
    | finite s u hu =>
      unfold add
      dsimp only
      split
      · nofun
      · exact round_ne_nan _ _ _

/-! ### Sums of zeros -/

/-- Nothing is rounded to zero, and keeps its sign. -/
theorem round_zero (negative : Bool) (d : Nat) : round negative 0 d = zero negative := by
  have hunits : ∀ d', halfEven 0 d' = 0 := by
    intro d'
    rcases Nat.eq_zero_or_pos d' with rfl | hd'
    · decide
    · simp [halfEven, hd']
  simp only [round, hunits, Nat.zero_shiftLeft]
  rfl

/-- Zero times a finite double is zero. -/
theorem exists_zero_mul (s : Bool) (hx : x.isFinite = true) : ∃ t, (zero s).mul x = zero t := by
  cases x with
  | nan | infinite t => cases hx
  | finite t v hv =>
    refine ⟨s != t, ?_⟩
    rw [zero, mul, Nat.zero_mul]
    exact round_zero _ _

/-- **Zeros of either sign add up to `0.0`.** -/
theorem sum_of_zeros {xs : List Binary64} (h : ∀ x ∈ xs, ∃ t, x = zero t) :
    sum xs = zero false := by
  induction xs with
  | nil => rfl
  | cons x xs ih =>
    obtain ⟨t, rfl⟩ := h x List.mem_cons_self
    have hadd : (zero false).add (zero t) = zero false := by
      cases t <;> rfl
    rw [sum, List.foldl_cons, hadd]
    exact ih fun y hy => h y (List.mem_cons_of_mem _ hy)

/-! ### Sums that are not rounded -/

/-- The units of 1. -/
def perWhole : Int := ((1 <<< 1074 : Nat) : Int)

/-- No addition is rounded when whole numbers are added one after the other. -/
def AddsUp : Binary64 → List Nat → Prop
  | _, [] => True
  | x, n :: ns =>
    (x.add (ofInt n)).place? = x.place?.map (· + n * perWhole) ∧ AddsUp (x.add (ofInt n)) ns

/-- The stakes are gone through one by one, each added to the sum of those before. -/
instance instDecidableAddsUp : ∀ x ns, Decidable (AddsUp x ns)
  | _, [] => isTrue trivial
  | x, n :: ns =>
    have := instDecidableAddsUp (x.add (ofInt n)) ns
    inferInstanceAs (Decidable (_ ∧ _))

/-- The first addition is exact. -/
theorem AddsUp.place?_add {a : Int} {n : Nat} {ns : List Nat} (h : AddsUp x (n :: ns))
    (hx : x.place? = some a) : (x.add (ofInt n)).place? = some (a + n * perWhole) := by
  rw [h.1, hx, Option.map_some]

/-- **A sum that is not rounded has the place of the exact sum.** -/
theorem AddsUp.place?_foldl {a : Int} {ns : List Nat} (h : AddsUp x ns) (hx : x.place? = some a) :
    ((ns.map fun n : Nat => ofInt n).foldl add x).place? = some (a + ns.sum * perWhole) := by
  induction ns generalizing x a with
  | nil => simpa using hx
  | cons n ns ih =>
    rw [List.map_cons, List.foldl_cons, ih h.2 (h.place?_add hx), List.sum_cons,
      Int.natCast_add, Int.add_mul, Int.add_assoc]

example : AddsUp (ofInt 3) [4, 4] ∧ ¬ AddsUp (ofHundredths false 1) [16, 16] := by
  decide +kernel

end Binary64
end Lottery
