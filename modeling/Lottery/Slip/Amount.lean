/-
# Amounts and numbers on a line

Amounts are whole and never negative: only the ASCII digits of an amount
count.  `commonWidth?` is the width that all numbers of a line share, and
`pairs` lists the pairs of a list of groups, each at two different places,
the earlier place first.

| definition | function |
| --- | --- |
| `amount` | `_to_int` of `_digits` |
| `pairs` | `_pairs` |
-/

import Lottery.Slip.Wager
import Lottery.Text.Digit

namespace Lottery
namespace Slip

/-- The amount that a piece of a line writes; a piece without digits writes 0. -/
def amount (piece : List Char) : Except LineError Nat :=
  let ds := Text.digitsOf piece
  if Text.maxDigits < ds.length then .error .amountTooLong else .ok (Text.toNat ds)

/-- The digits of each token, without the tokens that have none. -/
def numbers (tokens : List (List Char)) : List (List Char) :=
  (tokens.map Text.digitsOf).filter fun n => !n.isEmpty

/-- The width of the numbers, if there is a number and all have one width. -/
def commonWidth? : List (List Char) → Option Nat
  | [] => none
  | n :: ns => if ns.all fun m => m.length == n.length then some n.length else none

/-- Every pair of groups at two different places, written as one number. -/
def pairs : List (List Char) → List (List Char)
  | [] => []
  | g :: gs => gs.map (g ++ ·) ++ pairs gs

/-- The first group is paired with all others, and these among themselves. -/
theorem pairs_cons (g : List Char) (gs : List (List Char)) :
    pairs (g :: gs) = gs.map (g ++ ·) ++ pairs gs :=
  rfl

/-- `n` groups have `n (n - 1) / 2` pairs. -/
theorem two_mul_length_pairs (gs : List (List Char)) :
    2 * (pairs gs).length = gs.length * (gs.length - 1) := by
  induction gs with
  | nil => rfl
  | cons g gs ih =>
    rw [pairs_cons, List.length_append, List.length_map, Nat.mul_add, ih, List.length_cons]
    cases gs.length with
    | zero => rfl
    | succ n => simp only [Nat.add_sub_cancel, Nat.add_mul, Nat.mul_add]; omega

end Slip
end Lottery
