/-
# Sorting where all can be compared

Texts are compared as strings are (`Text.before_iff_lt`).  If every two elements
of a list can be compared, `sort` does not fail: it is the insertion sort by
their order (`Sorting.sort_eq_ok`), and what it gives increases
(`Text.pairwise_sortBy`).  A sorted set has as many texts as there are different
ones (`Text.length_sortedSet`).
-/

import Lottery.Sorting
import Lottery.Text.Order
import Mathlib.Data.Finset.Card
import Mathlib.Data.List.Induction
import Mathlib.Data.String.Basic

namespace Lottery

namespace Text

/-- Texts are ordered as lists of characters are. -/
theorem precedes_iff_lt {as bs : List Char} : precedes as bs = true ↔ as < bs := by
  fun_induction precedes as bs with
  | case1 as => simp
  | case2 b bs => simp
  | case3 a as b bs ih =>
    have hval : a.toNat < b.toNat ↔ a < b := Iff.rfl
    rw [List.cons_lt_cons_iff, Bool.or_eq_true, Bool.and_eq_true, decide_eq_true_eq, beq_iff_eq,
      ih, hval]

/-- Texts are in the order of strings. -/
theorem before_iff_lt {s t : String} : before s t = true ↔ s < t := by
  rw [before, precedes_iff_lt, String.lt_iff_toList_lt]

section Sorted

variable {α β : Type} [LinearOrder β] {lt : α → α → Bool} {key : α → β}
  (hlt : ∀ x y, lt x y = true ↔ key x < key y)
include hlt

/-- Inserting keeps a list sorted. -/
theorem pairwise_insertBy {ys : List α} (x : α) (h : ys.Pairwise fun y z => key y ≤ key z) :
    (insertBy lt x ys).Pairwise fun y z => key y ≤ key z := by
  -- Insertion goes down the list to the first element that is not before `x`.
  induction ys with
  | nil => exact List.pairwise_singleton _ _
  | cons y ys ih =>
    obtain ⟨hy, hys⟩ := List.pairwise_cons.1 h
    unfold insertBy
    split
    · next hyx =>
      refine List.pairwise_cons.2 ⟨fun z hz => ?_, ih hys⟩
      rcases mem_insertBy.1 hz with rfl | hz
      · exact le_of_lt ((hlt y z).1 hyx)
      · exact hy z hz
    · next hyx =>
      have hxy : key x ≤ key y := le_of_not_gt fun h => hyx ((hlt y x).2 h)
      refine List.pairwise_cons.2 ⟨fun z hz => ?_, h⟩
      rcases List.mem_cons.1 hz with rfl | hz
      · exact hxy
      · exact hxy.trans (hy z hz)

/-- **What is sorted by keys increases with them.** -/
theorem pairwise_sortBy (xs : List α) : (sortBy lt xs).Pairwise fun x y => key x ≤ key y := by
  induction xs with
  | nil => exact List.Pairwise.nil
  | cons x xs ih => exact pairwise_insertBy hlt x ih

end Sorted

section Sets

variable {α : Type} {lt : α → α → Bool}

/-- Inserting adds one element and loses none. -/
theorem perm_insertBy (x : α) (ys : List α) : (insertBy lt x ys).Perm (x :: ys) := by
  induction ys with
  | nil => exact .refl _
  | cons y ys ih =>
    unfold insertBy
    split
    · exact (ih.cons y).trans (.swap x y ys)
    · exact .refl _

/-- So sorting only changes the order. -/
theorem perm_sortBy (xs : List α) : (sortBy lt xs).Perm xs := by
  induction xs with
  | nil => exact .refl _
  | cons x xs ih => exact (perm_insertBy x _).trans (ih.cons x)

/-- Without repeats nothing comes twice. -/
theorem nodup_eraseDups [BEq α] [LawfulBEq α] (xs : List α) : xs.eraseDups.Nodup := by
  induction xs using List.reverseRecOn with
  | nil => exact .nil
  | append_singleton xs x ih =>
    rw [List.eraseDups_append, List.nodup_append]
    refine ⟨ih, ?_, fun y hy z hz => ?_⟩
    · by_cases hx : x ∈ xs <;> simp [List.removeAll, List.eraseDups_cons, hx]
    · rintro rfl
      by_cases hx : x ∈ xs <;> simp_all [List.removeAll, List.eraseDups_cons]

/-- Nor in a sorted set. -/
theorem nodup_sortedSet (ss : List String) : (sortedSet ss).Nodup :=
  (perm_sortBy ss.eraseDups).nodup_iff.2 (nodup_eraseDups ss)

/-- **A sorted set has each text once.** -/
theorem length_sortedSet (ss : List String) : (sortedSet ss).length = ss.toFinset.card := by
  have hset : (sortedSet ss).toFinset = ss.toFinset := by
    ext s
    rw [List.mem_toFinset, List.mem_toFinset, sortedSet, mem_sortBy, List.mem_eraseDups]
  rw [← List.toFinset_card_of_nodup (nodup_sortedSet ss), hset]

end Sets

end Text

namespace Sorting

variable {α ε : Type} {before : α → α → Except ε Bool} {lt : α → α → Bool} {xs : List α}

/-- Where all comparisons succeed, inserting is the insertion by their outcomes. -/
theorem insert_eq_ok {x : α} (h : ∀ y ∈ xs, before y x = .ok (lt y x)) :
    insert before x xs = .ok (Text.insertBy lt x xs) := by
  induction xs with
  | nil => rfl
  | cons y ys ih =>
    rw [insert, Text.insertBy, h y List.mem_cons_self,
      ih fun z hz => h z (List.mem_cons_of_mem y hz)]
    cases lt y x <;> rfl

/-- **Where all can be compared, there is a sorted list:** that of the insertion sort. -/
theorem sort_eq_ok (h : ∀ x ∈ xs, ∀ y ∈ xs, before x y = .ok (lt x y)) :
    sort before xs = .ok (Text.sortBy lt xs) := by
  induction xs with
  | nil => rfl
  | cons x xs ih =>
    have hrest : sort before xs = .ok (Text.sortBy lt xs) :=
      ih fun y hy z hz => h y (List.mem_cons_of_mem x hy) z (List.mem_cons_of_mem x hz)
    rw [sort, hrest]
    refine insert_eq_ok fun y hy => ?_
    exact h y (List.mem_cons_of_mem x (Text.mem_sortBy.1 hy)) x List.mem_cons_self

end Sorting
end Lottery
