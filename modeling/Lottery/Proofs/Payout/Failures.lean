/-
# Which bets cannot be paid

A bet on a play type, whatever its numbers and its amount are, is paid in a draw
at validated prices unless it fails in one of three ways (`FailsWith`):

| failure | fault |
| --- | --- |
| its numbers hold an integer of more than 4300 digits | `integerTooLong` |
| it names a number, and its amount is an integer beyond the doubles | `beyondDoubles` |
| its payments add up to more than 28 digits in cents | `beyondCents` |

There is no other failure (`evaluate_eq_error_iff`).  In particular an amount
that is no number counts as zero, and pays nothing.

A bet is paid by `evaluate_bet`. Its numbers are made texts by
`split_bet_numbers`, its amount a double by `_to_number`, and its payments are
rounded by `round_money`.
-/

import Lottery.Proofs.Binary64.Sums
import Lottery.Proofs.Money
import Lottery.Proofs.Payout.Winning

namespace Lottery
namespace Bet

variable {b : Bet} {d : Draw} {limited ns : List String} {prices : Price.Table} {name : String}
  {f : Fault}

/-- The ways in which a bet cannot be paid in a draw, each with its fault. -/
inductive FailsWith (b : Bet) (d : Draw) (limited : List String) (prices : Price.Table) :
    Fault → Prop where
  | numbers (h : b.numbers.hasLongInteger = true) : FailsWith b d limited prices .integerTooLong
  | amount {ns : List String} (hns : Numbers.ofValue b.numbers = .ok ns) (hne : ns ≠ [])
      (h : b.amount.IsBeyond) : FailsWith b d limited prices .beyondDoubles
  | payments {ns : List String} {rate : Price.Rate} {stake onLimited onOther : Binary64}
      (hns : Numbers.ofValue b.numbers = .ok ns) (hrate : b.rate prices = .ok rate)
      (hstake : b.amount.weight = .ok stake) (hl : rate.limited.weight = .ok onLimited)
      (ho : rate.regular.weight = .ok onOther)
      (h : (Binary64.sum ((ns.filter (b.wins d)).map
        (payment stake limited onLimited onOther))).IsBeyondCents) :
      FailsWith b d limited prices .beyondCents

/-! ### One way at a time -/

/-- A bet whose numbers cannot be written fails for that, before anything else is looked at. -/
theorem failsWith_of_long (h : b.numbers.hasLongInteger = true) :
    b.FailsWith d limited prices f ↔ f = .integerTooLong := by
  have herror := Numbers.ofValue_eq_error_iff.2 ⟨rfl, h⟩
  constructor
  · intro hf
    -- Every later cause needs numbers that were read.
    cases hf with
    | numbers _ => rfl
    | amount hns _ _ => cases herror.symm.trans hns
    | payments hns _ _ _ _ _ => cases herror.symm.trans hns
  · rintro rfl
    exact .numbers h

/-- A bet for an amount beyond the doubles fails for it, if it has numbers at all. -/
theorem failsWith_of_isBeyond (hns : Numbers.ofValue b.numbers = .ok ns) (h : b.amount.IsBeyond) :
    b.FailsWith d limited prices f ↔ f = .beyondDoubles ∧ ns ≠ [] := by
  have herror := Value.weight_eq_error_iff.2 ⟨rfl, h⟩
  constructor
  · intro hf
    -- The numbers are read, and a sum needs a stake.
    cases hf with
    | numbers hlong => cases hns.symm.trans (Numbers.ofValue_eq_error_iff.2 ⟨rfl, hlong⟩)
    | amount hns' hne _ =>
      obtain rfl := Except.ok.inj (hns.symm.trans hns')
      exact ⟨rfl, hne⟩
    | payments _ _ hstake _ _ _ => cases herror.symm.trans hstake
  · rintro ⟨rfl, hne⟩
    exact .amount hns hne h

/-- Where amount and multipliers are doubles, a bet fails only for a total beyond cents. -/
theorem failsWith_of_weight {rate : Price.Rate} {stake onLimited onOther : Binary64}
    (hns : Numbers.ofValue b.numbers = .ok ns) (hrate : b.rate prices = .ok rate)
    (hstake : b.amount.weight = .ok stake) (hl : rate.limited.weight = .ok onLimited)
    (ho : rate.regular.weight = .ok onOther) :
    b.FailsWith d limited prices f ↔ f = .beyondCents ∧
      (Binary64.sum ((ns.filter (b.wins d)).map
        (payment stake limited onLimited onOther))).IsBeyondCents := by
  constructor
  · intro hf
    -- With everything read, only the sum of the payments is left to fail.
    cases hf with
    | numbers hlong => cases hns.symm.trans (Numbers.ofValue_eq_error_iff.2 ⟨rfl, hlong⟩)
    | amount _ _ h => cases hstake.symm.trans (Value.weight_eq_error_iff.2 ⟨rfl, h⟩)
    | payments hns' hrate' hstake' hl' ho' h =>
      obtain rfl := Except.ok.inj (hns.symm.trans hns')
      obtain rfl := Except.ok.inj (hrate.symm.trans hrate')
      obtain rfl := Except.ok.inj (hstake.symm.trans hstake')
      obtain rfl := Except.ok.inj (hl.symm.trans hl')
      obtain rfl := Except.ok.inj (ho.symm.trans ho')
      exact ⟨rfl, h⟩
  · rintro ⟨rfl, h⟩
    exact .payments hns hrate hstake hl ho h

/-! ### All of them -/

/-- A bet on a play type fails in these ways only, each time with its fault. -/
theorem prize_eq_error_iff (hb : b.playType = .text name) (hprices : prices.WithinDoubles) :
    b.prize d limited prices = .error f ↔ b.FailsWith d limited prices f := by
  have hrate := rate_text hb prices
  -- In the order of the computation: the numbers, the stake, the sum.
  cases hns : Numbers.ofValue b.numbers with
  | error f' =>
    obtain ⟨rfl, hlong⟩ := Numbers.ofValue_eq_error_iff.1 hns
    have hprize : b.prize d limited prices = .error .integerTooLong := bind_eq_error.2 (.inl hns)
    rw [failsWith_of_long hlong, hprize, Except.error.injEq, eq_comm]
  | ok ns =>
    cases hstake : b.amount.weight with
    | error f' =>
      obtain ⟨rfl, hbeyond⟩ := Value.weight_eq_error_iff.1 hstake
      rw [failsWith_of_isBeyond hns hbeyond, prize, bind_of_eq_ok hns]
      -- Without numbers the stake is not looked at.
      cases ns with
      | nil => exact iff_of_false nofun fun h => h.2 rfl
      | cons n ns =>
        rw [List.isEmpty_cons, if_neg Bool.false_ne_true, bind_of_eq_ok hrate, hstake]
        exact ⟨fun h => ⟨(Except.error.inj h).symm, nofun⟩, fun h => congrArg _ h.1.symm⟩
    | ok stake =>
      obtain ⟨onLimited, hl⟩ := Value.exists_weight (hprices.rate name).1
      obtain ⟨onOther, ho⟩ := Value.exists_weight (hprices.rate name).2
      have hprize : b.prize d limited prices = _ := evaluate_eq_map hb hns hstake hl ho
      rw [failsWith_of_weight hns hrate hstake hl ho, hprize, ← Money.ofDouble_eq_error_iff]
      generalize Money.ofDouble _ = pay
      cases pay <;> simp [Except.map]

/-- An amount that is no number counts as zero. -/
theorem prize_of_isGarbage (h : b.amount.IsGarbage) :
    b.prize d limited prices = ({ b with amount := .int 0 } : Bet).prize d limited prices := by
  have hzero : (Value.int 0).weight = .ok (.zero false) := by
    decide +kernel
  unfold prize
  rw [Value.weight_of_isGarbage h]
  dsimp only
  rw [hzero]
  rfl

/-- **Nothing is paid for such an amount,** win or lose. -/
theorem exists_prize_of_isGarbage {raw : Value} (hb : b.playType = .text name)
    (hprices : Price.Table.build raw = .ok prices) (h : b.amount.IsGarbage)
    (hn : b.numbers.hasLongInteger = false) :
    ∃ won, b.prize d limited prices = .ok ⟨won, .zero false⟩ := by
  obtain ⟨ns, hns⟩ := Numbers.exists_ofValue hn
  obtain ⟨onLimited, onOther, hl, ho, hfl, hfo⟩ := Price.Table.exists_weight_rate hprices name
  have hprize : b.prize d limited prices = _ :=
    evaluate_eq_map hb hns (Value.weight_of_isGarbage h) hl ho
  -- A stake of zero times finite multipliers gives zeros, of either sign.
  have hsum : Binary64.sum ((ns.filter (b.wins d)).map
      (payment (.zero false) limited onLimited onOther)) = .zero false := by
    refine Binary64.sum_of_zeros (List.forall_mem_map.2 fun n _ => ?_)
    unfold payment
    split
    · exact Binary64.exists_zero_mul false hfl
    · exact Binary64.exists_zero_mul false hfo
  rw [hsum, Money.ofDouble_zero] at hprize
  exact ⟨_, hprize⟩

/-- **Evaluating a bet fails in three ways only.**  A bet on a play type at validated prices has a
prize, and that of no draw always, unless its numbers hold an integer that is too long, its amount
is an integer beyond the doubles, or its payments add up to an amount with too many digits; then
that is the fault.  A missing amount, or one that is no number, counts as zero and pays nothing. -/
theorem evaluate_eq_error_iff {raw : Value} {d : Option Draw} (hb : b.playType = .text name)
    (hprices : Price.Table.build raw = .ok prices) :
    (∀ f, evaluate (some b) d limited (some prices) = .error f ↔
      ∃ draw, d = some draw ∧ b.FailsWith draw limited prices f) ∧
    ((∃ p, evaluate (some b) d limited (some prices) = .ok p) ↔
      ∀ draw f, d = some draw → ¬b.FailsWith draw limited prices f) ∧
    (b.amount.IsGarbage →
      evaluate (some b) d limited (some prices) =
        evaluate (some { b with amount := .int 0 }) d limited (some prices) ∧
      (b.numbers.hasLongInteger = false →
        ∃ won, evaluate (some b) d limited (some prices) = .ok ⟨won, .zero false⟩)) := by
  -- Without a draw nothing is computed, so nothing fails.
  cases d with
  | none =>
    refine ⟨fun f => iff_of_false nofun nofun, iff_of_true ⟨_, rfl⟩ nofun, fun _ => ⟨rfl, ?_⟩⟩
    exact fun _ => ⟨false, rfl⟩
  | some d =>
    have hfails : ∀ f, evaluate (some b) (some d) limited (some prices) = .error f ↔
        b.FailsWith d limited prices f :=
      fun f => prize_eq_error_iff hb (Price.Table.withinDoubles_build hprices)
    refine ⟨fun f => ?_, ?_, fun h =>
      ⟨prize_of_isGarbage h, exists_prize_of_isGarbage hb hprices h⟩⟩
    · rw [hfails]
      constructor
      · exact fun h => ⟨d, rfl, h⟩
      · rintro ⟨draw, hd, h⟩
        cases hd
        exact h
    · constructor
      · rintro ⟨p, hp⟩ draw f hd h
        cases hd
        cases hp.symm.trans ((hfails f).2 h)
      · intro h
        cases hp : evaluate (some b) (some d) limited (some prices) with
        | ok p => exact ⟨p, rfl⟩
        | error f => exact absurd ((hfails f).1 hp) (h d f rfl)

set_option maxRecDepth 20000 in
/-- A bet that wins fails for its amount, or pays nothing for an amount that is no number. -/
theorem evaluate_eq_error_iff_fijo :
    Price.Table.build Price.Table.reference.toValue = .ok .reference ∧
    (Value.int (10 ^ 309)).IsBeyond ∧ (Value.text "abc").IsGarbage ∧
    evaluate (some ⟨.text "fijo", .text "34", .int (10 ^ 309)⟩)
        (some ⟨1, ⟨3, 4⟩, ⟨5, 6⟩, ⟨8, 4⟩⟩) [] (some .reference) = .error .beyondDoubles ∧
    ∃ won, evaluate (some ⟨.text "fijo", .text "34", .text "abc"⟩)
      (some ⟨1, ⟨3, 4⟩, ⟨5, 6⟩, ⟨8, 4⟩⟩) [] (some .reference) = .ok ⟨won, .zero false⟩ := by
  have hprices : Price.Table.build Price.Table.reference.toValue = .ok .reference := rfl
  -- One stake is an integer beyond the doubles, the other a text that writes no number.
  have hbeyond : (Value.int (10 ^ 309)).IsBeyond := ⟨_, rfl, by decide +kernel⟩
  have hgarbage : (Value.text "abc").IsGarbage := by
    refine ⟨fun ⟨_, hn, _⟩ => (nomatch hn), fun x hx => ?_⟩
    have herror : (Value.text "abc").toDouble = .error (.notNumeral "abc") := by
      decide +kernel
    cases herror.symm.trans hx
  refine ⟨hprices, hbeyond, hgarbage, ?_, ?_⟩
  · exact ((evaluate_eq_error_iff rfl hprices).1 _).2
      ⟨_, rfl, .amount (by decide +kernel) (List.cons_ne_nil "34" []) hbeyond⟩
  · exact ((evaluate_eq_error_iff rfl hprices).2.2 hgarbage).2 rfl

/-- Each of the three failures is met: by an amount of 310 digits, even if the bet does not win, by
one that pays more than 28 digits in cents, and by a number of 4301 digits. -/
theorem evaluate_fijo_eq_error :
    evaluate (some ⟨.text "fijo", .text "12", .int (10 ^ 309)⟩)
        (some ⟨1, ⟨3, 4⟩, ⟨5, 6⟩, ⟨8, 4⟩⟩) [] (some .reference) = .error .beyondDoubles ∧
    evaluate (some ⟨.text "fijo", .text "34", .int (10 ^ 27)⟩)
        (some ⟨1, ⟨3, 4⟩, ⟨5, 6⟩, ⟨8, 4⟩⟩) [] (some .reference) = .error .beyondCents ∧
    evaluate (some ⟨.text "fijo", .int ((10 ^ Text.maxDigits : Nat) : Int), .int 2⟩)
        (some ⟨1, ⟨3, 4⟩, ⟨5, 6⟩, ⟨8, 4⟩⟩) [] (some .reference) = .error .integerTooLong := by
  refine ⟨by decide +kernel, by decide +kernel, ?_⟩
  have hlong : Text.isLong (10 ^ Text.maxDigits) = true := Text.isLong_iff.2 (Nat.le_refl _)
  exact (prize_eq_error_iff rfl Price.Table.withinDoubles_reference).2 (.numbers hlong)

end Bet
end Lottery
