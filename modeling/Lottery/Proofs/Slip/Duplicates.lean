/-
# The numbers that are flagged

A number of a slip stands at a place, that of its instruction and its own in it
(`numberAt?`), and its key at the same place.  The keys of a slip are those at all its
places (`keys_eq_map_placed`), so a key is counted more than once exactly if it stands
at two different ones (`one_lt_count_keys_iff`).  An instruction flags the numbers
whose keys do, each once and in the order in which they first stand in it
(`read_flags`).

The flags are set by `_attach_duplicates`; the key is `_plain_key` for one grammar
and `_canonical_key` for the other.
-/

import Lottery.Proofs.Slip.Lines
import Mathlib.Data.Finset.Card

namespace Lottery

/-! ### Lists without repeats -/

section Lists

variable {α β : Type} [DecidableEq α] [BEq β] [LawfulBEq β]

/-- Dropping repeats and dropping elements by a test can be done in either order. -/
theorem eraseDups_filter (p : α → Bool) (l : List α) :
    (l.filter p).eraseDups = l.eraseDups.filter p := by
  induction l using List.reverseRecOn with
  | nil => rfl
  | append_singleton l a ih =>
    rw [List.filter_append, List.eraseDups_append, List.eraseDups_append, List.filter_append, ih]
    congr 1
    by_cases ha : a ∈ l <;> by_cases hp : p a = true <;>
      simp [List.removeAll, List.eraseDups_cons, ha, hp]

/-- Without repeats elements stand in the order in which they first stood. -/
theorem pairwise_idxOf_eraseDups (l : List α) :
    l.eraseDups.Pairwise fun a b => l.idxOf a < l.idxOf b := by
  -- The last element is new or not; what was there before keeps its first place.
  induction l using List.reverseRecOn with
  | nil => exact .nil
  | append_singleton l a ih =>
    have hold : ∀ {b}, b ∈ l.eraseDups → (l ++ [a]).idxOf b = l.idxOf b ∧ l.idxOf b < l.length :=
      fun hb => ⟨List.idxOf_append_of_mem (List.mem_eraseDups.1 hb),
        List.idxOf_lt_length_of_mem (List.mem_eraseDups.1 hb)⟩
    rw [List.eraseDups_append, List.pairwise_append]
    refine ⟨ih.imp_of_mem fun hb hc h => ?_, ?_, fun b hb c hc => ?_⟩
    · rwa [(hold hb).1, (hold hc).1]
    · by_cases ha : a ∈ l <;> simp [List.removeAll, List.eraseDups_cons, ha]
    · have hnew : c = a ∧ a ∉ l := by
        by_cases ha : a ∈ l <;> simp_all [List.removeAll, List.eraseDups_cons]
      obtain ⟨rfl, ha⟩ := hnew
      rw [(hold hb).1, List.idxOf_append_of_notMem ha]
      exact Nat.lt_add_right _ (hold hb).2

/-- A value is counted more than once exactly if two different elements have it. -/
theorem one_lt_count_map_iff {l : List α} (hl : l.Nodup) {f : α → β} {b : β} :
    1 < (l.map f).count b ↔ ∃ x ∈ l, ∃ y ∈ l, x ≠ y ∧ f x = b ∧ f y = b := by
  -- Without repeats the places are counted as a set.
  have hcount : (l.map f).count b = (l.filter fun x => f x == b).toFinset.card := by
    rw [List.toFinset_card_of_nodup (hl.filter _), List.count, List.countP_map,
      List.countP_eq_length_filter]
    rfl
  rw [hcount, Finset.one_lt_card]
  simp only [List.mem_toFinset, List.mem_filter, beq_iff_eq]
  constructor
  · rintro ⟨x, ⟨hx, hfx⟩, y, ⟨hy, hfy⟩, hne⟩
    exact ⟨x, hx, y, hy, hne, hfx, hfy⟩
  · rintro ⟨x, hx, y, hy, hne, hfx, hfy⟩
    exact ⟨x, ⟨hx, hfx⟩, y, ⟨hy, hfy⟩, hne⟩

end Lists

namespace Slip

variable {g : Grammar} {is : List Instruction}

/-! ### Places -/

/-- The number at a place, with the instruction that it belongs to. -/
def numberAt? (is : List Instruction) (p : Nat × Nat) : Option (Instruction × String) :=
  is[p.1]?.bind fun i => i.numbers[p.2]?.map fun n => (i, n)

/-- The key of the number at a place. -/
def keyAt? (g : Grammar) (is : List Instruction) (p : Nat × Nat) : Option (PlayType × String) :=
  (numberAt? is p).map fun e => g.key e.1.playType e.2

/-- A key stands at two different places. -/
def Repeated (g : Grammar) (is : List Instruction) (key : PlayType × String) : Prop :=
  ∃ p q, p ≠ q ∧ keyAt? g is p = some key ∧ keyAt? g is q = some key

/-- All numbers with their places and their instructions. -/
def placed (is : List Instruction) : List ((Nat × Nat) × Instruction × String) :=
  is.zipIdx.flatMap fun e => e.1.numbers.zipIdx.map fun n => ((e.2, n.2), e.1, n.1)

/-- A number stands at the place where it is found. -/
theorem mem_placed {p : Nat × Nat} {e : Instruction × String} :
    (p, e) ∈ placed is ↔ numberAt? is p = some e := by
  simp only [placed, numberAt?, List.mem_flatMap, List.mem_map, List.mem_zipIdx_iff_getElem?,
    Option.bind_eq_some_iff, Option.map_eq_some_iff]
  constructor
  · rintro ⟨⟨i, k⟩, hi, ⟨n, j⟩, hn, heq⟩
    obtain ⟨rfl, rfl⟩ := Prod.mk.inj heq
    exact ⟨i, hi, n, hn, rfl⟩
  · rintro ⟨i, hi, n, hn, rfl⟩
    exact ⟨(i, p.1), hi, (n, p.2), hn, rfl⟩

/-- Each place is there once. -/
theorem nodup_placed (is : List Instruction) : (placed is).Nodup := by
  rw [placed, List.Nodup, List.pairwise_flatMap]
  -- Places differ in their numbers or already in their instructions.
  constructor
  · intro e _
    rw [List.pairwise_map]
    refine (pairwise_zipIdx e.1.numbers 0).imp fun h heq => ?_
    exact Nat.ne_of_lt h (congrArg (fun x => x.1.2) heq)
  · refine (pairwise_zipIdx is 0).imp fun h => ?_
    intro a ha b hb heq
    obtain ⟨_, _, rfl⟩ := List.mem_map.1 ha
    obtain ⟨_, _, rfl⟩ := List.mem_map.1 hb
    exact Nat.ne_of_lt h (congrArg (fun x => x.1.1) heq)

/-- The keys of a slip are those of the numbers at all places, in order. -/
theorem keys_eq_map_placed (g : Grammar) (is : List Instruction) :
    keys g is = (placed is).map fun e => g.key e.2.1.playType e.2.2 := by
  have hnumbers : ∀ (i : Instruction) (k : Nat),
      ((i.numbers.zipIdx.map fun n => (((k, n.2), i, n.1) : (Nat × Nat) × Instruction × String)).map
        fun e => g.key e.2.1.playType e.2.2) = i.numbers.map (g.key i.playType) := by
    intro i k
    rw [List.map_map]
    exact map_fst_zipIdx (g.key i.playType) i.numbers 0
  rw [placed, List.map_flatMap, keys, ← flatMap_fst_zipIdx _ is 0]
  exact List.flatMap_congr fun e _ => (hnumbers e.1 e.2).symm

/-- **A key is counted more than once exactly if it stands at two different places.** -/
theorem one_lt_count_keys_iff {key : PlayType × String} :
    1 < (keys g is).count key ↔ Repeated g is key := by
  rw [keys_eq_map_placed, one_lt_count_map_iff (nodup_placed is), Repeated]
  simp only [keyAt?, Option.map_eq_some_iff, ← mem_placed]
  constructor
  · rintro ⟨⟨p, e⟩, he, ⟨q, f⟩, hf, hne, hp, hq⟩
    refine ⟨p, q, ?_, ⟨e, he, hp⟩, ⟨f, hf, hq⟩⟩
    rintro rfl
    rw [mem_placed] at he hf
    rw [he, Option.some.injEq] at hf
    exact hne (by rw [hf])
  · rintro ⟨p, q, hne, ⟨e, he, hp⟩, ⟨f, hf, hq⟩⟩
    exact ⟨(p, e), he, (q, f), hf, fun heq => hne (congrArg Prod.fst heq), hp, hq⟩

/-! ### Flags -/

/-- Flags do not change the keys, so they can be set one by one. -/
theorem keys_map_flag (all : List (PlayType × String)) (is : List Instruction) :
    keys g (is.map (flag g all)) = keys g is := by
  rw [keys, List.flatMap_map]
  rfl

/-- The numbers of an instruction that are flagged are those whose keys are counted more than once
on the slip. -/
theorem duplicates_read {text : String} {i : Instruction} (hi : i ∈ (read g text).instructions) :
    i.duplicates = i.numbers.eraseDups.filter fun n =>
      1 < (keys g (read g text).instructions).count (g.key i.playType n) := by
  rw [← eraseDups_filter]
  obtain ⟨j, hj, rfl⟩ := List.mem_map.1 hi
  show _ = (j.numbers.filter fun n => 1 < (keys g (List.map _ _)).count _).eraseDups
  rw [keys_map_flag]
  rfl

/-- A slip that flags the numbers whose keys stand at two places, and no others. -/
structure Outcome.Flags (g : Grammar) (o : Outcome) : Prop where
  mem_iff : ∀ i ∈ o.instructions, ∀ n,
    n ∈ i.duplicates ↔ n ∈ i.numbers ∧ Repeated g o.instructions (g.key i.playType n)
  /-- Each number is flagged once, in the order of their first places. -/
  ordered : ∀ i ∈ o.instructions,
    i.duplicates.Pairwise fun n m => i.numbers.idxOf n < i.numbers.idxOf m
  /-- Two numbers with one key are both flagged, as they are spelled. -/
  both : ∀ p q, p ≠ q → ∀ i n j m, numberAt? o.instructions p = some (i, n) →
    numberAt? o.instructions q = some (j, m) → g.key i.playType n = g.key j.playType m →
      n ∈ i.duplicates ∧ m ∈ j.duplicates
  /-- A number is not flagged if its key stands nowhere else. -/
  single : ∀ p i n, numberAt? o.instructions p = some (i, n) →
    (∀ q, keyAt? g o.instructions q = some (g.key i.playType n) → q = p) → n ∉ i.duplicates

/-- What is found at a place is a number of an instruction. -/
theorem mem_of_numberAt?_eq_some {p : Nat × Nat} {i : Instruction} {n : String}
    (h : numberAt? is p = some (i, n)) : i ∈ is ∧ n ∈ i.numbers := by
  obtain ⟨j, hj, hn⟩ := Option.bind_eq_some_iff.1 h
  obtain ⟨m, hm, heq⟩ := Option.map_eq_some_iff.1 hn
  obtain ⟨rfl, rfl⟩ := Prod.mk.inj heq
  exact ⟨List.mem_of_getElem? hj, List.mem_of_getElem? hm⟩

/-- Its key is that of the number. -/
theorem keyAt?_of_numberAt? {p : Nat × Nat} {i : Instruction} {n : String}
    (h : numberAt? is p = some (i, n)) : keyAt? g is p = some (g.key i.playType n) := by
  rw [keyAt?, h]
  rfl

/-- The duplicates of a slip that was read are flagged as its grammar says. -/
theorem flags_read (g : Grammar) (text : String) : (read g text).Flags g := by
  have hmem : ∀ i ∈ (read g text).instructions, ∀ n, n ∈ i.duplicates ↔
      n ∈ i.numbers ∧ Repeated g (read g text).instructions (g.key i.playType n) := by
    intro i hi n
    rw [duplicates_read hi, List.mem_filter, List.mem_eraseDups, decide_eq_true_eq,
      one_lt_count_keys_iff]
  -- The key counts for all numbers that have it, so two that share it are flagged together.
  refine ⟨hmem, fun i hi => ?_, fun p q hne i n j m hp hq hkey => ?_, fun p i n hp hone hdup => ?_⟩
  · rw [duplicates_read hi]
    exact (pairwise_idxOf_eraseDups i.numbers).filter _
  · obtain ⟨hi, hn⟩ := mem_of_numberAt?_eq_some hp
    obtain ⟨hj, hm⟩ := mem_of_numberAt?_eq_some hq
    have hkp : keyAt? g (read g text).instructions p = some (g.key i.playType n) :=
      keyAt?_of_numberAt? hp
    have hkq : keyAt? g (read g text).instructions q = some (g.key i.playType n) :=
      hkey ▸ keyAt?_of_numberAt? hq
    have hrepeated : Repeated g (read g text).instructions (g.key i.playType n) :=
      ⟨p, q, hne, hkp, hkq⟩
    exact ⟨(hmem i hi n).2 ⟨hn, hrepeated⟩, (hmem j hj m).2 ⟨hm, hkey ▸ hrepeated⟩⟩
  · obtain ⟨hi, _⟩ := mem_of_numberAt?_eq_some hp
    obtain ⟨_, q, r, hne, hq, hr⟩ := (hmem i hi n).1 hdup
    exact hne ((hone q hq).trans (hone r hr).symm)

/-- **Exactly the repeated numbers of a slip are flagged.**  Its flags aside, a slip is what its
lines ask for one by one, those that are rejected for nothing. -/
theorem read_flags (g : Grammar) (text : String) :
    (read g text).Flags g ∧
    ((read g text).instructions.map fun i => { i with duplicates := [] }) =
      ((Text.lines text.toList).zipIdx 1).flatMap
        (fun l => (g.wagers l.1).map fun w => ⟨w, l.2, []⟩) ∧
    (read g text).errors =
      ((Text.lines text.toList).zipIdx 1).filterMap
        fun l => (g.error? l.1).map fun e => (l.2, e) := by
  refine ⟨flags_read g text, ?_, errors_readLines g 1 _⟩
  -- Flags are put on afterwards, and reading a line gives none.
  have hnone : ∀ i ∈ (readLines g 1 (Text.lines text.toList)).instructions,
      { i with duplicates := [] } = i := by
    intro i hi
    rw [instructions_readLines] at hi
    obtain ⟨l, _, hi⟩ := List.mem_flatMap.1 hi
    obtain ⟨w, _, rfl⟩ := List.mem_map.1 hi
    rfl
  rw [← instructions_readLines, read, List.map_map]
  exact (List.map_congr_left hnone).trans (List.map_id' _)

-- The two spellings of a parle have one key under the grammar with "con" only.
example : (read .con "1234 1299 con 2\n3412 con 3\n12 con x").instructions.map (·.duplicates) =
      [["1234"], ["3412"]] ∧
    (read (.dash false) "1234 1299-2\n3412-3").instructions.map (·.duplicates) = [[], []] := by
  decide +kernel

end Slip
end Lottery
