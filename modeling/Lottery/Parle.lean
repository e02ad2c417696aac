/-
# Spellings of a parle

A parle is a pair of two-digit groups without an order, so `AB CD` and `CD AB`
are the same bet.  `swap` exchanges the halves of a text of four characters
and leaves any other text alone; the canonical spelling is the smaller of the
two.

`canonical` is `canonical_parle`.  It does not ask whether the text is a parle:
any text of four characters has two spellings.
-/

import Lottery.Text.Order

namespace Lottery
namespace Parle

/-- The halves of a text of four characters, exchanged. -/
def swap : List Char → List Char
  | [a, b, c, d] => [c, d, a, b]
  | cs => cs

/-- The smaller of a text and its swap. -/
def smaller (cs : List Char) : List Char :=
  if Text.precedes (swap cs) cs then swap cs else cs

/-- The canonical spelling of a number of a parle. -/
def canonical (s : String) : String :=
  String.ofList (smaller s.toList)

/-- Swapping twice gives back what was written. -/
@[simp] theorem swap_swap (cs : List Char) : swap (swap cs) = cs := by
  match cs with
  | [] | [_] | [_, _] | [_, _, _] | [_, _, _, _] | _ :: _ :: _ :: _ :: _ :: _ => rfl

/-- Only a text of four characters has halves to be swapped. -/
theorem swap_eq_self_of_length {cs : List Char} (h : cs.length ≠ 4) : swap cs = cs := by
  unfold swap
  split
  · simp at h
  · rfl

/-- The smaller spelling is one of the two. -/
theorem smaller_eq_or (cs : List Char) : smaller cs = cs ∨ smaller cs = swap cs := by
  unfold smaller
  split <;> simp

example : canonical "5934" = "3459" ∧ canonical "3459" = "3459" ∧ canonical "123" = "123" := by
  decide

end Parle
end Lottery
