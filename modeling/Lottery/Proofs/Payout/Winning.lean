/-
# What a bet pays is what its winning numbers pay

A bet goes through its numbers from the left.  A number that does not win is
passed over, and one that wins is paid at its own multiplier, once for each
place where it is listed (`payments_eq_sum`).  So the prize is the sum of these
payments in cents (`evaluate_eq_map`), and nothing else has a say in it
(`evaluate_eq_of_winning_eq`):

| changed | does it matter? |
| --- | --- |
| numbers that do not win, and blank ones, put in or left out | no |
| which numbers that do not win are limited | no |
| multipliers of other play types | no |
| how often, and in which order, the winning numbers are listed | yes |
| which winning numbers are limited, each as it is spelled | yes |

The walk is the loop of `evaluate_bet`, and the multiplier that of `_multiplier`,
which looks for the number among the limited ones as it is spelled.
-/

import Lottery.Proofs.Play.Settling
import Lottery.Proofs.Price.Table

namespace Lottery
namespace Bet

variable {b b' : Bet} {d : Draw} {ns ns' limited limited' : List String}
  {prices prices' : Price.Table} {name : String} {stake onLimited onOther : Binary64}

/-- What a winning number pays: the stake at the multiplier for limited numbers or at the other
one. -/
def payment (stake : Binary64) (limited : List String) (onLimited onOther : Binary64)
    (number : String) : Binary64 :=
  stake.mul (if number ∈ limited then onLimited else onOther)

/-- The payments depend on the limited ones among the numbers that are paid. -/
theorem map_payment_congr (h : ∀ n ∈ ns, n ∈ limited ↔ n ∈ limited') :
    ns.map (payment stake limited onLimited onOther) =
      ns.map (payment stake limited' onLimited onOther) :=
  List.map_congr_left fun n hn => by simp only [payment, h n hn]

/-- **Payments are added from the left,** one for each place of a number. -/
theorem payments_eq_sum {rate : Price.Rate} (hl : rate.limited.weight = .ok onLimited)
    (ho : rate.regular.weight = .ok onOther) (stake : Binary64) (limited ns : List String) :
    payments stake rate limited ns =
      .ok (Binary64.sum (ns.map (payment stake limited onLimited onOther))) := by
  have hmultiplier : ∀ n ∈ ns, multiplier rate limited n =
      .ok (if n ∈ limited then onLimited else onOther) := by
    intro n _
    rw [multiplier]
    by_cases hn : n ∈ limited
    · rw [if_pos (List.contains_iff_mem.2 hn), if_pos hn, hl]
    · rw [if_neg fun h => hn (List.contains_iff_mem.1 h), if_neg hn, ho]
  -- The step of the fold as a computation first and an addition behind it.
  have hstep : (fun (total : Binary64) n => (do
      let m ← multiplier rate limited n
      .ok (total.add (stake.mul m)) : Except Fault Binary64)) =
      fun total n => (multiplier rate limited n).map fun m => total.add (stake.mul m) := by
    funext total n
    cases multiplier rate limited n <;> rfl
  have hsum : ∀ ms : List Binary64,
      ms.foldl (fun total m => total.add (stake.mul m)) (.zero false) =
        Binary64.sum (ms.map stake.mul) :=
    fun ms => List.foldl_map.symm
  rw [payments, hstep, foldlM_eq_map_mapM, mapM_eq_ok hmultiplier, Except.map, hsum, List.map_map]
  rfl

/-- The multipliers of a play type that is named by a text are those of the table. -/
theorem rate_text (h : b.playType = .text name) (prices : Price.Table) :
    b.rate prices = .ok (prices.rate name) := by
  rw [rate, h]
  rfl

/-- **The prize is the sum of the payments in cents,** and the bet wins if there are any. -/
theorem evaluate_eq_map (hb : b.playType = .text name) (hns : Numbers.ofValue b.numbers = .ok ns)
    (hstake : b.amount.weight = .ok stake)
    (hl : (prices.rate name).limited.weight = .ok onLimited)
    (ho : (prices.rate name).regular.weight = .ok onOther) :
    evaluate (some b) (some d) limited (some prices) =
      (Money.ofDouble (Binary64.sum ((ns.filter (b.wins d)).map
        (payment stake limited onLimited onOther)))).map
          fun pay => ⟨!(ns.filter (b.wins d)).isEmpty, pay⟩ := by
  show b.prize d limited prices = _
  unfold prize
  rw [bind_of_eq_ok hns]
  cases ns with
  | nil =>
    -- No number at all pays zero, as no winning number does.
    show _ = (Money.ofDouble (.zero false)).map _
    rw [Money.ofDouble_zero]
    rfl
  | cons n ns =>
    rw [List.isEmpty_cons, if_neg Bool.false_ne_true, bind_of_eq_ok (rate_text hb prices),
      bind_of_eq_ok hstake, bind_of_eq_ok (payments_eq_sum hl ho stake limited _)]
    generalize Money.ofDouble _ = pay
    cases pay <;> rfl

/-- **The prize depends on the winning numbers alone.**  Two bets of one play type at one amount
have the same prize in a draw, or the same fault, if the same numbers of theirs win, in the same
order and each as often, if the same of these are limited, and if their play type has the same
multipliers.  The prize is the sum, in cents, of the amount times its multiplier for each winning
number, from the left. -/
theorem evaluate_eq_of_winning_eq {raw : Value} (hb : b.playType = .text name)
    (hb' : b'.playType = .text name) (ha : ¬b.amount.IsBeyond) (ha' : b'.amount = b.amount)
    (hns : Numbers.ofValue b.numbers = .ok ns) (hns' : Numbers.ofValue b'.numbers = .ok ns')
    (hprices : Price.Table.build raw = .ok prices)
    (hwinning : ns.filter (b.wins d) = ns'.filter (b'.wins d))
    (hlimited : ∀ n ∈ ns.filter (b.wins d), n ∈ limited ↔ n ∈ limited')
    (hrate : prices.rate name = prices'.rate name) :
    evaluate (some b) (some d) limited (some prices) =
        evaluate (some b') (some d) limited' (some prices') ∧
      ∃ stake onLimited onOther, b.amount.weight = .ok stake ∧
        (prices.rate name).limited.weight = .ok onLimited ∧
        (prices.rate name).regular.weight = .ok onOther ∧
        evaluate (some b) (some d) limited (some prices) =
          (Money.ofDouble (Binary64.sum ((ns.filter (b.wins d)).map fun n =>
            stake.mul (if n ∈ limited then onLimited else onOther)))).map
              fun pay => ⟨!(ns.filter (b.wins d)).isEmpty, pay⟩ := by
  -- What wins, what is limited and the multipliers are all that the sum is made of.
  obtain ⟨stake, hstake⟩ := Value.exists_weight ha
  obtain ⟨onLimited, onOther, hl, ho, _, _⟩ := Price.Table.exists_weight_rate hprices name
  have hprize : evaluate (some b) (some d) limited (some prices) = _ :=
    evaluate_eq_map hb hns hstake hl ho
  refine ⟨?_, stake, onLimited, onOther, hstake, hl, ho, hprize⟩
  rw [hprize, evaluate_eq_map hb' hns' (ha' ▸ hstake) (hrate ▸ hl) (hrate ▸ ho), ← hwinning,
    map_payment_congr hlimited]

/-- A price for `parle`, and one for `fijo` at some multipliers. -/
def rawPrices (limited regular : Int) : Value :=
  .object [("parle", .object [("limited", .int 900), ("regular", .text "1200")]),
    ("fijo", .object [("limited", .int limited), ("regular", .int regular)])]

/-- The table that they validate to. -/
def validPrices (limited regular : Int) : Price.Table :=
  [("parle", ⟨.real (.ofInt 900), .real (.ofInt 1200)⟩),
    ("fijo", ⟨.real (.ofInt limited), .real (.ofInt regular)⟩)]

/-- Three parles that win, the last one the first again in its other spelling, in a text. -/
def writtenParles : Bet :=
  ⟨.text "parle", .text " 5934 ,,12,3434,3459", .int 2⟩

/-- The same three among other numbers, in a list. -/
def listedParles : Bet :=
  ⟨.text "parle", .list [.text "5934", .text " ", .int 3434, .text "0199", .text "3459"],
    .int 2⟩

set_option maxRecDepth 20000 in
/-- The first spelling is limited and the other one is not: neither the blank and losing numbers
around them, nor a limit on one of these, nor the price for `fijo` matter. -/
theorem evaluate_eq_of_winning_eq_limited :
    Numbers.ofValue writtenParles.numbers = .ok ["5934", "12", "3434", "3459"] ∧
    Numbers.ofValue listedParles.numbers = .ok ["5934", "3434", "0199", "3459"] ∧
    Price.Table.build (rawPrices 50 80) = .ok (validPrices 50 80) ∧
    evaluate (some writtenParles) (some ⟨1, ⟨3, 4⟩, ⟨3, 4⟩, ⟨5, 9⟩⟩) ["5934", "12"]
        (some (validPrices 50 80)) = .ok ⟨true, .ofInt 6600⟩ ∧
    evaluate (some writtenParles) (some ⟨1, ⟨3, 4⟩, ⟨3, 4⟩, ⟨5, 9⟩⟩) ["5934", "12"]
        (some (validPrices 50 80)) =
      evaluate (some listedParles) (some ⟨1, ⟨3, 4⟩, ⟨3, 4⟩, ⟨5, 9⟩⟩) ["5934"]
        (some (validPrices 60 90)) := by
  have hns : Numbers.ofValue writtenParles.numbers = .ok ["5934", "12", "3434", "3459"] := by
    decide +kernel
  have hns' : Numbers.ofValue listedParles.numbers = .ok ["5934", "3434", "0199", "3459"] := by
    decide +kernel
  have hprices : Price.Table.build (rawPrices 50 80) = .ok (validPrices 50 80) := rfl
  -- The bets differ in their losing number, in its limit and in other prices.
  have hstake : ¬writtenParles.amount.IsBeyond := by
    rintro ⟨n, hn, hbeyond⟩
    cases hn
    revert hbeyond
    decide +kernel
  have hsame : listedParles.amount = writtenParles.amount := rfl
  refine ⟨hns, hns', hprices, by decide +kernel, ?_⟩
  exact (evaluate_eq_of_winning_eq rfl rfl hstake hsame hns hns' hprices (by decide +kernel)
    (by decide +kernel) rfl).1

end Bet
end Lottery
