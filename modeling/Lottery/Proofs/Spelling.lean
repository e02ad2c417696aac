/-
# The canonical spelling tells parles apart

Texts are ordered strictly and completely by their code points
(`precedes_asymm`, `precedes_trichotomy`), so the smaller of a text and its swap
does not depend on which of the two one starts from (`smaller_swap`).  Hence two
texts have one canonical spelling exactly if they are equal or swaps of each
other (`smaller_eq_smaller_iff`).  For numbers, `swapped` is the other spelling
(`canonical_eq_canonical_iff`).

Numbers that are respelled one by one are the same parles (`sameParles_of_forall₂`),
and the same parles have the same canonical spellings, each as often
(`SameParles.perm_map_canonical`).  How often each *spelling* stands among them
may change all the same: `TalliedAlike` says that it does not, the two spellings
of a number exchanged or not.

| numbers | respelled | tallied alike |
| --- | --- | --- |
| `1234` `1234` `0199` | `3412` `3412` `9901` | yes |
| `1234` `1234` `0199` | `1234` `3412` `0199` | no |
-/

import Lottery.Parle
import Mathlib.Data.List.Forall2

namespace Lottery

namespace Text

/-- Of two texts only one comes before the other. -/
theorem precedes_asymm {as bs : List Char} (h : precedes as bs = true) :
    precedes bs as = false := by
  fun_induction precedes as bs with
  | case1 => cases h
  | case2 => rfl
  | case3 a as b bs ih =>
    simp only [Bool.or_eq_true, Bool.and_eq_true, decide_eq_true_eq, beq_iff_eq] at h
    -- Decided at the first place, or later behind equal characters.
    rcases h with h | ⟨rfl, h⟩
    · have hne : b ≠ a := by
        rintro rfl
        exact Nat.lt_irrefl _ h
      simp [precedes, hne, Nat.le_of_lt h]
    · simp [precedes, ih h]

/-- The order tells any two different texts apart. -/
theorem precedes_trichotomy (as bs : List Char) :
    precedes as bs = true ∨ as = bs ∨ precedes bs as = true := by
  -- Along the comparison itself, which goes on only where the characters are alike.
  fun_induction precedes as bs with
  | case1 as => cases as <;> simp [precedes]
  | case2 => simp
  | case3 a as b bs ih =>
    rcases Nat.lt_trichotomy a.toNat b.toNat with h | h | h
    · simp [h]
    · obtain rfl := Char.toNat_inj.1 h
      rcases ih with ih | rfl | ih
      · simp [ih]
      · simp
      · simp [precedes, ih]
    · simp [precedes, h]

end Text

namespace Parle

/-- Swapping the halves of a text puts the second in front. -/
theorem swap_append {x y : List Char} (hx : x.length = 2) (hy : y.length = 2) :
    swap (x ++ y) = y ++ x := by
  match x, y with
  | [_, _], [_, _] => rfl

/-- Both spellings have the same smaller one. -/
@[simp] theorem smaller_swap (cs : List Char) : smaller (swap cs) = smaller cs := by
  unfold smaller
  rw [swap_swap]
  rcases Text.precedes_trichotomy cs (swap cs) with h | h | h
  · rw [if_pos h, Text.precedes_asymm h]
    rfl
  · rw [← h]
  · rw [Text.precedes_asymm h, if_pos h]
    rfl

/-- **Two texts have one canonical spelling exactly if they are spellings of each other.** -/
theorem smaller_eq_smaller_iff {as bs : List Char} :
    smaller as = smaller bs ↔ as = bs ∨ as = swap bs := by
  constructor
  · intro h
    -- Each smaller one is the text itself or its swap, and swapping twice does nothing.
    rcases smaller_eq_or as with ha | ha <;> rcases smaller_eq_or bs with hb | hb <;>
      rw [ha, hb] at h
    · exact .inl h
    · exact .inr h
    · exact .inr (by rw [← h, swap_swap])
    · exact .inl (by rw [← swap_swap as, h, swap_swap])
  · rintro (rfl | rfl)
    · rfl
    · exact smaller_swap bs

/-- The other spelling of a number of a parle. -/
def swapped (s : String) : String :=
  String.ofList (swap s.toList)

/-- Swapping twice gives back what was written: the halves are of one length. -/
@[simp] theorem swapped_swapped (s : String) : swapped (swapped s) = s := by
  rw [swapped, swapped, String.toList_ofList, swap_swap, String.ofList_toList]

/-- What swapping does to the characters of a text. -/
theorem swapped_ofList (cs : List Char) : swapped (String.ofList cs) = String.ofList (swap cs) := by
  rw [swapped, String.toList_ofList]

/-- A text that has not the length of a parle has no other spelling. -/
theorem swapped_eq_self_of_length {s : String} (h : s.toList.length ≠ 4) : swapped s = s := by
  rw [swapped, swap_eq_self_of_length h, String.ofList_toList]

/-- A text of four characters has two halves. -/
theorem exists_halves {s : String} (h : s.toList.length = 4) :
    ∃ x y : List Char, x.length = 2 ∧ y.length = 2 ∧ s = String.ofList (x ++ y) := by
  refine ⟨s.toList.take 2, s.toList.drop 2, ?_, ?_, ?_⟩
  · rw [List.length_take]
    omega
  · rw [List.length_drop]
    omega
  · rw [List.take_append_drop, String.ofList_toList]

/-- **Two texts are canonically the same exactly if they are equal or each other's swap.** -/
theorem canonical_eq_canonical_iff {s t : String} :
    canonical s = canonical t ↔ s = t ∨ s = swapped t := by
  have hswap : s.toList = swap t.toList ↔ s = swapped t := by
    rw [swapped, ← String.toList_inj, String.toList_ofList]
  rw [canonical, canonical, String.ofList_inj, smaller_eq_smaller_iff, String.toList_inj, hswap]

/-- The canonical spelling does not depend on which of the two is written. -/
@[simp] theorem canonical_swapped (s : String) : canonical (swapped s) = canonical s :=
  canonical_eq_canonical_iff.2 (.inr rfl)

/-- It is one of the two. -/
theorem canonical_eq_or (s : String) : canonical s = s ∨ canonical s = swapped s := by
  rcases smaller_eq_or s.toList with h | h
  · exact .inl (by rw [canonical, h, String.ofList_toList])
  · exact .inr (by rw [canonical, h, swapped])

/-- A canonical spelling is its own. -/
@[simp] theorem canonical_canonical (s : String) : canonical (canonical s) = canonical s :=
  canonical_eq_canonical_iff.2 (canonical_eq_or s)

/-- Swapping is its own inverse. -/
theorem swapped_eq_iff {s t : String} : swapped s = t ↔ s = swapped t := by
  constructor
  · rintro rfl
    rw [swapped_swapped]
  · rintro rfl
    rw [swapped_swapped]

/-! ### Lists of numbers in two spellings -/

variable {ns ms : List String}

/-- The same parles, each as often, in whatever spellings. -/
def SameParles (ns ms : List String) : Prop :=
  ∀ n, ms.count n + ms.count (swapped n) = ns.count n + ns.count (swapped n)

/-- Each number of the first list stands in the second as often, in the same spelling or in the
other. -/
def TalliedAlike (ns ms : List String) : Prop :=
  ∀ n ∈ ns, ms.count n = ns.count n ∨ ms.count (swapped n) = ns.count n

/-- It is enough to look at the numbers of the two lists, so the relation is decidable. -/
instance instDecidableTalliedAlike (ns ms : List String) : Decidable (TalliedAlike ns ms) :=
  inferInstanceAs (Decidable
    (∀ n ∈ ns, ms.count n = ns.count n ∨ ms.count (swapped n) = ns.count n))

example : TalliedAlike ["1234", "1234", "0199"] ["3412", "3412", "0199"] ∧
    ¬ TalliedAlike ["1234", "1234", "0199"] ["1234", "3412", "0199"] := by
  decide

/-- Numbers that are respelled one by one, in place, are the same parles. -/
theorem sameParles_of_forall₂ (h : List.Forall₂ (fun n m => m = n ∨ m = swapped n) ns ms) :
    SameParles ns ms := by
  intro n
  induction h with
  | nil => rfl
  | @cons k m ns ms hkm _ ih =>
    -- A number that is respelled moves one count to the other spelling.
    rcases hkm with rfl | rfl
    · simp only [List.count_cons]
      omega
    · simp only [List.count_cons, beq_iff_eq, swapped_eq_iff, swapped_swapped]
      omega

/-- How often a parle stands in a list, in its two spellings together. -/
theorem count_map_canonical (ns : List String) (n : String) :
    (ns.map canonical).count (canonical n) =
      if swapped n = n then ns.count n else ns.count n + ns.count (swapped n) := by
  induction ns with
  | nil => simp
  | cons k ns ih =>
    simp only [List.map_cons, List.count_cons, ih, beq_iff_eq, canonical_eq_canonical_iff]
    -- A number that is its own swap has one spelling, any other has two to be counted.
    by_cases hs : swapped n = n
    · simp [hs]
    · by_cases hk : k = n
      · subst hk
        simp only [hs, true_or, if_true, if_false, Ne.symm hs]
        omega
      · simp only [hs, hk, false_or, if_false]
        omega

/-- **The same parles have the same canonical spellings,** each as often. -/
theorem SameParles.perm_map_canonical (h : SameParles ns ms) :
    (ns.map canonical).Perm (ms.map canonical) := by
  refine List.perm_iff_count.2 fun c => ?_
  -- A text that is no canonical spelling stands in neither list.
  by_cases hc : ∃ n, canonical n = c
  · obtain ⟨n, rfl⟩ := hc
    have hn := h n
    rw [count_map_canonical, count_map_canonical]
    split
    · next hs =>
      rw [hs] at hn
      omega
    · exact hn.symm
  · have hnone : ∀ ks : List String, (ks.map canonical).count c = 0 := fun ks =>
      List.count_eq_zero.2 fun hmem =>
        hc ((List.mem_map.1 hmem).imp fun _ hk => hk.2)
    rw [hnone, hnone]

/-- **A number of the second list has a counterpart in the first:** a spelling of the same parle
that stands there as often. -/
theorem TalliedAlike.exists_count_eq (h : TalliedAlike ns ms) (hsame : SameParles ns ms)
    {m : String} (hm : m ∈ ms) :
    ∃ n ∈ ns, canonical m = canonical n ∧ ms.count m = ns.count n := by
  have hpos : 0 < ms.count m := List.count_pos_iff.2 hm
  have htotal := hsame m
  have hself : canonical m = canonical (swapped m) := (canonical_swapped m).symm
  -- If `m` is not among `ns`, its parle is there in the other spelling.
  by_cases hmem : m ∈ ns
  · rcases h m hmem with heq | heq
    · exact ⟨m, hmem, rfl, heq⟩
    · -- The other spelling has the tally of this one, so this one has that of the other.
      have hcount : ms.count m = ns.count (swapped m) := by omega
      exact ⟨swapped m, List.count_pos_iff.1 (by omega), hself, hcount⟩
  · have hzero : ns.count m = 0 := List.count_eq_zero.2 hmem
    have hmem' : swapped m ∈ ns := List.count_pos_iff.1 (by omega)
    have hcounts := h (swapped m) hmem'
    rw [swapped_swapped] at hcounts
    rcases hcounts with heq | heq
    · omega
    · exact ⟨swapped m, hmem', hself, heq⟩

/-- How often the more frequent spelling of a parle stands in a list. -/
def greaterTally (ns : List String) (n : String) : Nat :=
  max (ns.count n) (ns.count (swapped n))

/-- The greater tally is not below the count of either spelling. -/
theorem count_le_greaterTally {m n : String} (h : canonical m = canonical n) :
    ns.count m ≤ greaterTally ns n := by
  rcases canonical_eq_canonical_iff.1 h with rfl | rfl
  · exact Nat.le_max_left ..
  · exact Nat.le_max_right ..

/-- It is the count of one of them. -/
theorem exists_count_eq_greaterTally (ns : List String) (n : String) :
    ∃ m, canonical m = canonical n ∧ ns.count m = greaterTally ns n := by
  rcases Nat.le_total (ns.count n) (ns.count (swapped n)) with h | h
  · exact ⟨swapped n, canonical_swapped n, (Nat.max_eq_right h).symm⟩
  · exact ⟨n, rfl, (Nat.max_eq_left h).symm⟩

/-- No spelling comes more often than there are numbers. -/
theorem greaterTally_le_length (ns : List String) (n : String) :
    greaterTally ns n ≤ ns.length :=
  Nat.max_le.2 ⟨List.count_le_length, List.count_le_length⟩

/-- **The greater tallies tell apart what is not tallied alike.** -/
theorem talliedAlike_of_greaterTally_eq (hsame : SameParles ns ms)
    (h : ∀ n ∈ ns, greaterTally ms n = greaterTally ns n) : TalliedAlike ns ms := by
  intro n hn
  have htotal := hsame n
  have hgreater := h n hn
  unfold greaterTally at hgreater
  omega

end Parle
end Lottery
