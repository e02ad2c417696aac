/-
# Texts in order of their code points

`precedes` compares two texts at the first place where they differ; a text
precedes its proper extensions.  `sortBy` is the stable insertion sort of a
list by a strict order, `sortedSet` the texts of a list once each, in order.

The canonical spelling of a parle goes by this order, and sets of winning numbers are
listed in it; `Lottery.Proofs.Spelling` shows that it is strict and total.
-/

namespace Lottery
namespace Text

/-- Does the first text come strictly before the second? -/
def precedes : List Char → List Char → Bool
  | _, [] => false
  | [], _ :: _ => true
  | a :: as, b :: bs => a.toNat < b.toNat || (a == b && precedes as bs)

/-- The order of strings: that of their characters. -/
def before (s t : String) : Bool :=
  precedes s.toList t.toList

/-- `x` put into a sorted list, in front of the first element that does not
come before it. -/
def insertBy {α : Type} (lt : α → α → Bool) (x : α) : List α → List α
  | [] => [x]
  | y :: ys => if lt y x then y :: insertBy lt x ys else x :: y :: ys

/-- The list in the order `lt`; elements that `lt` does not tell apart keep
their order. -/
def sortBy {α : Type} (lt : α → α → Bool) (xs : List α) : List α :=
  xs.foldr (insertBy lt) []

/-- The strings of a list once each, in order. -/
def sortedSet (ss : List String) : List String :=
  sortBy before ss.eraseDups

/-- Inserting keeps the elements and adds its own. -/
theorem mem_insertBy {α : Type} {lt : α → α → Bool} {x y : α} {ys : List α} :
    y ∈ insertBy lt x ys ↔ y = x ∨ y ∈ ys := by
  induction ys with
  | nil => simp [insertBy]
  | cons z zs ih =>
    unfold insertBy
    split
    · simp only [List.mem_cons, ih]
      exact ⟨fun h => by rcases h with h | h | h <;> simp [h],
        fun h => by rcases h with h | h | h <;> simp [h]⟩
    · simp

/-- Sorting keeps the elements. -/
@[simp] theorem mem_sortBy {α : Type} {lt : α → α → Bool} {y : α} {xs : List α} :
    y ∈ sortBy lt xs ↔ y ∈ xs := by
  induction xs with
  | nil => simp [sortBy]
  | cons x xs ih =>
    have h : sortBy lt (x :: xs) = insertBy lt x (sortBy lt xs) := rfl
    rw [h, mem_insertBy, ih, List.mem_cons]

end Text
end Lottery
