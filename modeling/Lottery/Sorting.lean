/-
# Sorting where comparing may fail

`sort` puts a list in order by inserting its elements one by one; elements that
the order does not tell apart keep their order.  If two elements that have to
be compared have no order, there is no sorted list.
-/

import Lottery.Fault

namespace Lottery
namespace Sorting

variable {α ε : Type}

/-- `x` put into a sorted list, in front of the first element that does not
come before it. -/
def insert (before : α → α → Except ε Bool) (x : α) : List α → Except ε (List α)
  | [] => .ok [x]
  | y :: ys => do
    if ← before y x then
      let rest ← insert before x ys
      .ok (y :: rest)
    else .ok (x :: y :: ys)

/-- The list in order. -/
def sort (before : α → α → Except ε Bool) : List α → Except ε (List α)
  | [] => .ok []
  | x :: xs => do
    let rest ← sort before xs
    insert before x rest

/-- Inserting adds one element and loses none, whatever the comparisons say. -/
theorem perm_of_insert {before : α → α → Except ε Bool} {x : α} {ys zs : List α}
    (h : insert before x ys = .ok zs) : zs.Perm (x :: ys) := by
  induction ys generalizing zs with
  | nil =>
    cases h
    exact .refl _
  | cons y ys ih =>
    rw [insert] at h
    obtain ⟨b, _, h⟩ := bind_eq_ok.1 h
    cases b with
    | false =>
      cases h
      exact .refl _
    | true =>
      obtain ⟨rest, hr, h⟩ := bind_eq_ok.1 h
      cases h
      exact ((ih hr).cons y).trans (.swap x y ys)

/-- **Sorting keeps the elements.** -/
theorem perm_of_sort {before : α → α → Except ε Bool} {xs ys : List α}
    (h : sort before xs = .ok ys) : ys.Perm xs := by
  induction xs generalizing ys with
  | nil =>
    cases h
    exact .refl _
  | cons x xs ih =>
    rw [sort] at h
    obtain ⟨rest, hs, h⟩ := bind_eq_ok.1 h
    exact (perm_of_insert h).trans ((ih hs).cons x)

end Sorting
end Lottery
