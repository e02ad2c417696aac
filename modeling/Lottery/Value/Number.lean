/-
# Numbers in values

`toDouble` makes a double of any value, `amount` does so with 0 for what does
not count as present, and `weight` with 0 also for what is no number.

`weight` is `_to_number`: what is no number counts as 0, and only the fault of an integer
beyond the doubles is let through.
-/

import Lottery.Numeral
import Lottery.Value.Basic

namespace Lottery
namespace Value

/-- An integer as a double. -/
def doubleOfInt (n : Int) : Except Fault Binary64 :=
  let x := Binary64.ofInt n
  if x.isFinite then .ok x else .error .beyondDoubles

/-- A value as a double. -/
def toDouble : Value → Except Fault Binary64
  | .bool b => .ok (.ofInt (if b then 1 else 0))
  | .int n => doubleOfInt n
  | .real x => .ok x
  | .text s =>
    match Numeral.double? s with
    | some x => .ok x
    | none => .error (.notNumeral s)
  | v => .error (.notNumeric v.kind)

/-- A value as a double, 0 if it does not count as present. -/
def amount (v : Value) : Except Fault Binary64 :=
  (v.orElse (.int 0)).toDouble

/-- A value as a double, 0 if it is no number; only an integer beyond the
doubles is a fault. -/
def weight (v : Value) : Except Fault Binary64 :=
  match v.amount with
  | .ok .nan => .ok (.zero false)
  | .ok x => .ok x
  | .error .beyondDoubles => .error .beyondDoubles
  | .error _ => .ok (.zero false)

/-- An integer has a double exactly if the nearest one is finite. -/
theorem doubleOfInt_eq_ok_iff {n : Int} {x : Binary64} :
    doubleOfInt n = .ok x ↔ (Binary64.ofInt n).isFinite = true ∧ Binary64.ofInt n = x := by
  unfold doubleOfInt
  dsimp only
  split <;> simp_all

/-- Any other integer is beyond the doubles. -/
theorem doubleOfInt_eq_error_iff {n : Int} {f : Fault} :
    doubleOfInt n = .error f ↔ (Binary64.ofInt n).isFinite = false ∧ f = .beyondDoubles := by
  unfold doubleOfInt
  dsimp only
  split
  · next h => simp [h]
  · next h => simp [Bool.eq_false_iff.2 h, eq_comm]

/-- An integer is an amount as it is; zero is the default anyway. -/
@[simp] theorem amount_int (n : Int) : (Value.int n).amount = doubleOfInt n := by
  unfold amount orElse
  split
  · rfl
  · next h =>
    have hn : n = 0 := by simpa [isPresent] using h
    rw [hn]
    rfl

end Value
end Lottery
