/-
# What a bet on parles pays does not depend on their spelling

A number of a parle wins in both spellings (`wins_eq_canonical`), and what a bet
pays depends on the multipliers of its winning numbers
(`evaluate_eq_of_multipliers_eq`).  Hence two bets on parles have the same prize in
each of these cases:

| the parles of the two bets | limited numbers |
| --- | --- |
| the same, in whatever order (`evaluate_eq_of_sameParles`) | none |
| the same one by one (`evaluate_eq_of_spellings`) | both numbers of a pair or neither |

Numbers are limited as written: with `5934` limited and `3459` not, the two need not
pay the same.

The bet is paid by `evaluate_bet`, which looks for a number among the winners as
it is spelled; both spellings are there.
-/

import Lottery.Payout
import Lottery.Proofs.Computations
import Lottery.Proofs.Spelling
import Mathlib.Data.List.Count

namespace Lottery
namespace Bet

variable {b b' : Bet} {ns ms limited : List String}

/-- A parle wins by its canonical spelling. -/
theorem wins_eq_canonical (hb : b.playType = .text PlayType.parle.name) (d : Draw) (n : String) :
    b.wins d n = (d.winners .parle).contains (Parle.canonical n) := by
  rw [wins, isParle, hb]
  rfl

/-- As many numbers win as there are parles that do. -/
theorem length_filter_wins (hb : b.playType = .text PlayType.parle.name) (d : Draw)
    (ns : List String) : (ns.filter (b.wins d)).length =
      (ns.map Parle.canonical).countP (d.winners .parle).contains := by
  rw [List.countP_map, ← List.countP_eq_length_filter]
  exact List.countP_congr fun n _ => by rw [wins_eq_canonical hb, Function.comp_apply]

/-- The payments depend on the multipliers of the numbers that are paid. -/
theorem payments_eq_of_multipliers_eq {rate : Price.Rate} (stake : Binary64)
    (h : ns.map (multiplier rate limited) = ms.map (multiplier rate limited)) :
    payments stake rate limited ns = payments stake rate limited ms := by
  -- Payments are folded over the multipliers, whatever numbers these are of.
  have hpayments : ∀ ks : List String, payments stake rate limited ks =
      (ks.map (multiplier rate limited)).foldlM (fun total m => do
        let m ← m
        .ok (total.add (stake.mul m))) (.zero false) := by
    intro ks
    rw [List.foldlM_map]
    rfl
  rw [hpayments, hpayments, h]

/-- **The prize depends on the multipliers of the winning numbers,** in their order. -/
theorem evaluate_eq_of_multipliers_eq {d : Option Draw} {prices : Option Price.Table}
    (hb : b'.playType = b.playType) (ha : b'.amount = b.amount)
    (hns : Numbers.ofValue b.numbers = .ok ns) (hms : Numbers.ofValue b'.numbers = .ok ms)
    (hlen : ms.length = ns.length)
    (h : ∀ d rate, (ms.filter (b'.wins d)).map (multiplier rate limited) =
      (ns.filter (b.wins d)).map (multiplier rate limited)) :
    evaluate (some b') d limited prices = evaluate (some b) d limited prices := by
  cases d with
  | none => rfl
  | some d =>
    cases prices with
    | none => rfl
    | some prices =>
      -- The prize asks for its lists only whether they are empty, and for the multipliers in
      -- order.
      have hempty : ∀ {l l' : List String}, l.length = l'.length → l.isEmpty = l'.isEmpty := by
        intro l l' h
        rw [Bool.eq_iff_iff, List.isEmpty_iff_length_eq_zero, List.isEmpty_iff_length_eq_zero, h]
      have hwinning : (ms.filter (b'.wins d)).length = (ns.filter (b.wins d)).length := by
        simpa using congrArg List.length (h d .zero)
      have hrate : b'.rate prices = b.rate prices := by
        rw [rate, rate, hb]
      show b'.prize d limited prices = b.prize d limited prices
      unfold prize
      simp only [hns, hms, bind, Except.bind, hrate, ha, hempty hlen, hempty hwinning,
        payments_eq_of_multipliers_eq _ (h d _)]

/-- **Bets on the same parles have the same prize,** or the same fault. -/
theorem evaluate_eq_of_sameParles (hb : b.playType = .text PlayType.parle.name)
    (hb' : b'.playType = b.playType) (ha : b'.amount = b.amount)
    (hns : Numbers.ofValue b.numbers = .ok ns) (hms : Numbers.ofValue b'.numbers = .ok ms)
    (h : Parle.SameParles ns ms) (d : Option Draw) (prices : Option Price.Table) :
    evaluate (some b) d [] prices = evaluate (some b') d [] prices := by
  have hperm := h.perm_map_canonical
  have hlisted : ms.length = ns.length := by
    rw [← List.length_map Parle.canonical, ← hperm.length_eq, List.length_map]
  refine (evaluate_eq_of_multipliers_eq hb' ha hns hms hlisted fun d rate => ?_).symm
  -- Without limited numbers there is one multiplier, so only how many win matters.
  have hregular : multiplier rate [] = fun _ => rate.regular.weight := rfl
  rw [hregular, List.map_const', List.map_const', length_filter_wins hb,
    length_filter_wins (hb'.trans hb), hperm.countP_eq]

/-- **Bets that differ in the spelling of their parles have the same prize,** or the same fault,
if both spellings of each number that is replaced are limited, or neither is. -/
theorem evaluate_eq_of_spellings {v w amount : Value} (hv : Numbers.ofValue v = .ok ns)
    (hw : Numbers.ofValue w = .ok ms)
    (h : List.Forall₂ (fun n m => Parle.canonical n = Parle.canonical m ∧
      (n ∈ limited ↔ m ∈ limited)) ns ms) (d : Option Draw) (prices : Option Price.Table) :
    evaluate (some ⟨.text PlayType.parle.name, w, amount⟩) d limited prices =
      evaluate (some ⟨.text PlayType.parle.name, v, amount⟩) d limited prices := by
  refine evaluate_eq_of_multipliers_eq rfl rfl hv hw h.length_eq.symm fun d rate => ?_
  clear hv hw
  -- Along the pairs of spellings: each pair wins together and has one multiplier.
  induction h with
  | nil => rfl
  | @cons n m ns ms hnm _ ih =>
    have hwins : Bet.wins ⟨.text PlayType.parle.name, w, amount⟩ d m =
        Bet.wins ⟨.text PlayType.parle.name, v, amount⟩ d n := by
      rw [wins_eq_canonical rfl, wins_eq_canonical rfl, hnm.1]
    have hmultiplier : multiplier rate limited m = multiplier rate limited n := by
      simp only [multiplier, List.contains_iff_mem, hnm.2]
    rw [List.filter_cons, List.filter_cons, hwins]
    split
    · rw [List.map_cons, List.map_cons, hmultiplier, ih]
    · exact ih

-- A limit on one spelling alone tells them apart.
example : evaluate (some ⟨.text "parle", .text "5934", .int 2⟩) (some ⟨1, ⟨3, 4⟩, ⟨3, 4⟩, ⟨5, 9⟩⟩)
      ["5934"] (some .reference) = .ok ⟨true, .ofInt 1800⟩ ∧
    evaluate (some ⟨.text "parle", .text "3459", .int 2⟩) (some ⟨1, ⟨3, 4⟩, ⟨3, 4⟩, ⟨5, 9⟩⟩)
      ["5934"] (some .reference) = .ok ⟨true, .ofInt 2400⟩ := by
  decide +kernel

end Bet
end Lottery
