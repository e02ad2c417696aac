/-
# Pairs of groups in another order

Each two places of a list of groups make one pair, the earlier place first.  The
order of the groups decides how a pair is spelled, and not how often it is made:

| a pair of | is made, its two spellings together |
| --- | --- |
| two groups that stand `i` and `j` times | `i * j` times (`count_pairs_add`) |
| a group that stands `i` times with itself | `i * (i - 1) / 2` times (`two_mul_count_pairs_self`) |

So groups in another order make the same parles (`sameParles_pairNumbers`), and
if no group stands twice they are tallied alike
(`talliedAlike_pairNumbers_of_nodup`).  On a line with stars the order of the
base numbers decides about nothing else (`exists_line_starred_perm`).
-/

import Lottery.Proofs.Slip.Numbers
import Lottery.Proofs.Spelling
import Lottery.Proofs.Text.Pieces
import Mathlib.Data.List.Count
import Mathlib.Data.List.Nodup

namespace Lottery
namespace Slip

variable {gs hs : List (List Char)} {w : Nat} {a b : List Char}

/-- A group in front of others makes a pair as often as its second half stands among them. -/
theorem count_map_append {g : List Char} (hlen : g.length = a.length) :
    (gs.map (g ++ ·)).count (a ++ b) = if g = a then gs.count b else 0 := by
  rw [List.count, List.countP_map]
  split
  · next h =>
    rw [h]
    refine List.countP_congr fun c _ => ?_
    rw [Function.comp_apply, beq_iff_eq, beq_iff_eq, List.append_right_inj]
  -- Halves of one width are told apart by where the text is cut.
  · next h =>
    refine List.countP_eq_zero.2 fun c _ he => h ?_
    exact (List.append_inj (beq_iff_eq.1 he) hlen).1

section Width

variable (hgs : ∀ g ∈ gs, g.length = w)
include hgs

/-- **Two different groups are paired as often as they can be,** in the two spellings together. -/
theorem count_pairs_add (hne : a ≠ b) (ha : a.length = w) (hb : b.length = w) :
    (pairs gs).count (a ++ b) + (pairs gs).count (b ++ a) = gs.count a * gs.count b := by
  induction gs with
  | nil => rfl
  | cons g gs ih =>
    have hg : g.length = w := hgs g List.mem_cons_self
    have htail := ih fun g hg => hgs g (List.mem_cons_of_mem _ hg)
    rw [pairs_cons, List.count_append, List.count_append, count_map_append (hg.trans ha.symm),
      count_map_append (hg.trans hb.symm), List.count_cons, List.count_cons]
    -- The first group is one of the two, and then makes a pair with each of the other.
    by_cases hga : g = a
    · subst hga
      simp only [if_pos, if_neg hne, beq_self_eq_true, beq_iff_eq, Nat.add_zero, Nat.add_mul]
      omega
    · by_cases hgb : g = b
      · subst hgb
        simp only [if_pos, if_neg hga, beq_self_eq_true, beq_iff_eq, Nat.add_zero, Nat.mul_add]
        omega
      · simp only [if_neg hga, if_neg hgb, beq_iff_eq, Nat.add_zero]
        omega

/-- A group is paired with itself at each two of its places. -/
theorem two_mul_count_pairs_self (ha : a.length = w) :
    2 * (pairs gs).count (a ++ a) = gs.count a * (gs.count a - 1) := by
  induction gs with
  | nil => rfl
  | cons g gs ih =>
    have hg : g.length = w := hgs g List.mem_cons_self
    have htail := ih fun g hg => hgs g (List.mem_cons_of_mem _ hg)
    rw [pairs_cons, List.count_append, count_map_append (hg.trans ha.symm), List.count_cons]
    -- A further copy of `a` is paired with all those behind it.
    by_cases hga : g = a
    · subst hga
      simp only [if_pos, beq_self_eq_true]
      cases hc : gs.count g with
      | zero => simp [hc] at htail ⊢; omega
      | succ n =>
        rw [hc] at htail
        simp only [Nat.add_sub_cancel, Nat.add_mul, Nat.mul_add] at htail ⊢
        omega
    · simp only [if_neg hga, beq_iff_eq, Nat.add_zero, Nat.zero_add]
      exact htail

end Width

/-! ### Groups in another order -/

/-- As many groups have as many pairs. -/
theorem length_pairs_of_perm (h : gs.Perm hs) : (pairs hs).length = (pairs gs).length := by
  have hg := two_mul_length_pairs gs
  have hh := two_mul_length_pairs hs
  rw [← h.length_eq] at hh
  omega

/-- The pairs of some groups as numbers. -/
def pairNumbers (gs : List (List Char)) : List String :=
  (pairs gs).map String.ofList

/-- A pair comes as often as text as it does as characters. -/
theorem count_pairNumbers (gs : List (List Char)) (p : List Char) :
    (pairNumbers gs).count (String.ofList p) = (pairs gs).count p :=
  List.count_map_of_injective _ String.ofList (fun _ _ h => String.ofList_injective h) p

section Groups

variable (hgs : ∀ g ∈ gs, g.length = 2)
include hgs

/-- What has not four characters is no pair of groups. -/
theorem count_pairNumbers_eq_zero {n : String} (hn : n.toList.length ≠ 4) :
    (pairNumbers gs).count n = 0 := by
  refine List.count_eq_zero.2 fun hmem => hn ?_
  obtain ⟨p, hp, rfl⟩ := List.mem_map.1 hmem
  obtain ⟨a, ha, b, hb, rfl⟩ := mem_pairs hp
  rw [String.toList_ofList, List.length_append, hgs a ha, hgs b hb]

/-- **Groups in another order make the same parles.** -/
theorem sameParles_pairNumbers (h : gs.Perm hs) :
    Parle.SameParles (pairNumbers gs) (pairNumbers hs) := by
  have hhs : ∀ g ∈ hs, g.length = 2 := fun g hg => hgs g (h.mem_iff.2 hg)
  intro n
  by_cases hn : n.toList.length = 4
  · obtain ⟨a, b, ha, hb, rfl⟩ := Parle.exists_halves hn
    rw [Parle.swapped_ofList, Parle.swap_append ha hb]
    simp only [count_pairNumbers]
    -- A pair of equal groups has one spelling, which is counted by itself.
    by_cases hab : a = b
    · subst hab
      have hg := two_mul_count_pairs_self hgs ha
      have hh := two_mul_count_pairs_self hhs ha
      rw [h.count_eq] at hg
      omega
    · rw [count_pairs_add hgs hab ha hb, count_pairs_add hhs hab ha hb, h.count_eq, h.count_eq]
  · rw [Parle.swapped_eq_self_of_length hn, count_pairNumbers_eq_zero hgs hn,
      count_pairNumbers_eq_zero hhs hn]

/-- **Groups that are all different make alike tallies in every order:** each two of them are
paired once. -/
theorem talliedAlike_pairNumbers_of_nodup (h : gs.Perm hs) (hnodup : gs.Nodup) :
    Parle.TalliedAlike (pairNumbers gs) (pairNumbers hs) := by
  intro n hn
  have hpos : 0 < (pairNumbers gs).count n := List.count_pos_iff.2 hn
  have hsame := sameParles_pairNumbers hgs h n
  obtain ⟨p, hp, rfl⟩ := List.mem_map.1 hn
  obtain ⟨a, ha, b, hb, rfl⟩ := mem_pairs hp
  have hca := List.count_eq_one_of_mem hnodup ha
  have hcb := List.count_eq_one_of_mem hnodup hb
  rw [Parle.swapped_ofList, Parle.swap_append (hgs a ha) (hgs b hb)] at hsame ⊢
  simp only [count_pairNumbers] at hsame hpos ⊢
  -- Each group stands once, so each parle is made once, in one spelling or the other.
  by_cases hab : a = b
  · subst hab
    omega
  · have htotal := count_pairs_add hgs hab (hgs a ha) (hgs b hb)
    rw [hca, hcb] at htotal
    omega

end Groups

/-! ### Lines of pairs -/

namespace Dash

variable {ts us : List (List Char)}

/-- Tokens with a star between each two, a dash, and what follows it. -/
def starred (ts : List (List Char)) (rest : List Char) : List Char :=
  ['*'].intercalate ts ++ '-' :: rest

/-- The base numbers that tokens write. -/
def bases (ts : List (List Char)) : List (List Char) :=
  ((numbers ts).map fill).filter fun g => g.length == 2

example : starred ["12".toList, "3".toList, "x".toList] "9".toList = "12*3*x-9".toList ∧
    bases ["12".toList, "3".toList, "x".toList] = ["12".toList, "03".toList] := by
  decide

/-- The base numbers of tokens in another order are the same in another order. -/
theorem bases_perm (h : ts.Perm us) : (bases ts).Perm (bases us) :=
  (((h.map _).filter _).map _).filter _

/-- Base numbers have two digits. -/
theorem length_of_mem_bases {g : List Char} (h : g ∈ bases ts) : g.length = 2 :=
  beq_iff_eq.1 (List.mem_filter.1 h).2

/-- The wager on the pairs of base numbers, a stake on each and the total. -/
def pairsWager (ts : List (List Char)) (a : Nat × Nat) : Wager :=
  ⟨.parle, pairNumbers (bases ts), a.1, a.2, some .pairs⟩

/-- The stake on each pair of a line with so many base numbers and pairs, and the total, by what
follows the first dash. -/
def pairsStake (locked : Bool) (rest : List Char) (bases pairs : Nat) :
    Except LineError (Nat × Nat) :=
  match Text.pieces (· == '-') rest with
  | [] => .error .missingPairAmount
  | piece :: _ =>
    if piece.isEmpty then .error .missingPairAmount
    else do
      let a ← amount piece
      if bases < 2 then .error .tooFewGroups
      else if a = 0 then .error (.zeroAmount .parle)
      else if locked then if a < pairs then .error .shareTooSmall else .ok (a / pairs, a)
      else .ok (a, a * pairs)

/-- Two tokens have a star between them. -/
theorem mem_starred {rest : List Char} (hlen : 2 ≤ ts.length) : '*' ∈ starred ts rest := by
  match ts with
  | [] | [_] => simp at hlen
  | t :: t' :: ts => simp [starred, List.intercalate_cons_cons]

section Starred

variable (hts : ∀ t ∈ ts, '*' ∉ t ∧ '-' ∉ t)
include hts

/-- Cutting at the stars gives back the tokens, and of these the base numbers. -/
theorem groups_intercalate (hne : ts ≠ []) : groups (['*'].intercalate ts) = bases ts := by
  rw [groups, Text.pieces_intercalate hne fun t ht => (hts t ht).1]
  rfl

/-- The dash behind the tokens is the first one, since they have none. -/
theorem pieces_starred (rest : List Char) :
    Text.pieces (· == '-') (starred ts rest) =
      ['*'].intercalate ts :: Text.pieces (· == '-') rest := by
  rw [starred, Text.pieces_append_cons (by decide), Text.pieces_eq_singleton, List.singleton_append]
  intro c hc
  rw [beq_eq_false_iff_ne]
  rintro rfl
  rcases Text.mem_intercalate hc with h | ⟨t, ht, h⟩
  · cases h
  · exact (hts t ht).2 h

/-- **A line with stars is judged by its amount and by how many base numbers it has.** -/
theorem line_starred (locked : Bool) (rest : List Char) (hlen : 2 ≤ ts.length) :
    line locked (starred ts rest) =
      (pairsStake locked rest (bases ts).length (pairs (bases ts)).length).map
        fun a => [pairsWager ts a] := by
  have hne : ts ≠ [] := by
    rintro rfl
    simp at hlen
  rw [line, if_pos (List.contains_iff_mem.2 (mem_starred hlen)), pairsLine, pieces_starred hts,
    pairsStake]
  -- Without an amount the line is rejected before its groups are looked at.
  cases Text.pieces (· == '-') rest with
  | nil => rfl
  | cons piece more =>
    dsimp only
    rw [groups_intercalate hts hne]
    cases piece.isEmpty with
    | true => rfl
    | false =>
      rw [if_neg Bool.false_ne_true, if_neg Bool.false_ne_true]
      cases amount piece with
      | error e => rfl
      | ok a =>
        simp only [bind, Except.bind]
        split
        · rfl
        · split
          · rfl
          · cases locked with
            | false => simp [pairsWager, pairNumbers, Wager.staking, Except.map]
            | true =>
              simp only [List.length_map, if_true]
              split <;> simp [pairsWager, pairNumbers, Wager.sharing, Except.map]

/-- **The order of the base numbers decides about the order of the pairs only:** whether the line
is accepted, the stake and the total are the same. -/
theorem exists_line_starred_perm (h : ts.Perm us) (locked : Bool) (rest : List Char)
    (hlen : 2 ≤ ts.length) :
    ∃ r : Except LineError (Nat × Nat),
      line locked (starred ts rest) = r.map (fun a => [pairsWager ts a]) ∧
        line locked (starred us rest) = r.map (fun a => [pairsWager us a]) := by
  have hus : ∀ t ∈ us, '*' ∉ t ∧ '-' ∉ t := fun t ht => hts t (h.mem_iff.2 ht)
  refine ⟨_, line_starred hts locked rest hlen, ?_⟩
  rw [line_starred hus locked rest (h.length_eq ▸ hlen), ← (bases_perm h).length_eq,
    length_pairs_of_perm (bases_perm h)]

end Starred

/-- A line, and the line with its base numbers in another order that makes alike tallies. -/
inductive Reordered : List Char → List Char → Prop where
  | same (cs : List Char) : Reordered cs cs
  | starred {ts us : List (List Char)} (h : ts.Perm us) (hts : ∀ t ∈ ts, '*' ∉ t ∧ '-' ∉ t)
      (halike : Parle.TalliedAlike (pairNumbers (bases ts)) (pairNumbers (bases us)))
      (rest : List Char) : Reordered (starred ts rest) (starred us rest)

end Dash
end Slip
end Lottery
