/-
# Slips and bets that are not answered

| asked for | breaks if |
| --- | --- |
| a slip | the sum of its totals is a long integer, or the number of a line |
| the prize of a bet | the first fault of the prices is an integer beyond the doubles |
| | its amount is one, or its prize is beyond cents |

The prices are those of the request or the reference: no file is named.

The views are `parse_bets_view` and `evaluate_bet_view`.
-/

import Lottery.Proofs.Service.Shown
import Lottery.Proofs.Slip.Accounts

namespace Lottery

/-! ### Slips -/

/-- The sum of the totals of a slip is a long integer, or the number of one of its lines is. -/
def Slip.Outcome.IsLong (o : Slip.Outcome) : Prop :=
  Text.isLong o.perLotterySum = true ∨ (∃ i ∈ o.instructions, Text.isLong i.line = true) ∨
    ∃ e ∈ o.errors, Text.isLong e.1 = true

namespace Service

/-- Whatever slip a request brings is read by one of the grammars. -/
theorem exists_readValue_of_slipOf {fields : List (String × Value)} {o : Slip.Outcome}
    (ho : slipOf fields = .ok o) : ∃ g v, o = Slip.readValue g v := by
  obtain ⟨grammar, _, ho⟩ := bind_eq_ok.1 ho
  dsimp only at ho
  split at ho
  · exact ⟨_, _, (Except.ok.inj ho).symm⟩
  · split at ho
    · exact ⟨_, _, (Except.ok.inj ho).symm⟩
    · cases ho

section Fields

variable {fields : List (String × Value)} (h : Value.anyLongField fields = false)
include h

/-- Reading the slip of a request does not fail: what is wrong with it is explained. -/
theorem not_fails_slipOf : ¬Fails (slipOf fields) := by
  have hgrammar : ¬Fails (orRefuse .failed
      (((Value.get fields "syntax").orElse (.text "dash")).written)) :=
    not_fails_orRefuse (Value.exists_written
      (Value.hasLongInteger_orElse (Value.hasLongInteger_get h "syntax") rfl))
  -- The grammar is read first, and everything behind it is answered or explained.
  unfold slipOf
  rw [fails_bind]
  rintro (hf | ⟨grammar, _, hf⟩)
  · exact hgrammar hf
  · dsimp only at hf
    split at hf
    · exact not_fails_ok hf
    · split at hf
      · exact not_fails_ok hf
      · exact not_fails_explained hf

/-- **A slip that is read goes unanswered exactly if some integer of it is too long.** -/
theorem breaks_parseBets :
    Breaks (Answer.parseBets fields) ↔ ∃ o, slipOf fields = .ok o ∧ o.IsLong := by
  unfold Answer.parseBets
  rw [breaks_bind, or_iff_right (not_fails_slipOf h)]
  refine exists_congr fun o => and_congr_right fun ho => ?_
  obtain ⟨g, v, rfl⟩ := exists_readValue_of_slipOf ho
  generalize hread : Slip.readValue g v = o at ho ⊢
  have hinstruction : ∀ i ∈ o.instructions, ((Show.instruction i).hasLongInteger = true ↔
      Text.isLong i.total = true ∨ Text.isLong i.line = true) := by
    intro i hi
    obtain ⟨shared, hi⟩ := Slip.wellFormed_of_mem_readValue (hread ▸ hi)
    exact Show.hasLongInteger_instruction hi
  have htotal : ∀ i ∈ o.instructions, Text.isLong i.total = true →
      Text.isLong o.perLotterySum = true := by
    intro i hi
    refine Text.isLong_of_le ?_
    rw [Slip.perLotterySum_eq_sum]
    exact List.le_sum_of_mem (List.mem_map.2 ⟨i, hi, rfl⟩)
  -- A total is part of the sum, so it is no cause of its own.
  have hanswer : Breaks (.ok (.object [
      ("instructions", .list (o.instructions.map Show.instruction)),
      ("errors", .list (o.errors.map Show.lineError)),
      ("per_lottery_sum", .int o.perLotterySum)])) ↔
        (∃ i ∈ o.instructions, (Show.instruction i).hasLongInteger = true) ∨
          (∃ e ∈ o.errors, Text.isLong e.1 = true) ∨ Text.isLong o.perLotterySum = true := by
    rw [breaks_ok]
    simp only [Value.hasLongInteger, Value.anyLongField, Value.anyLongInteger_map,
      Show.hasLongInteger_lineError, Int.natAbs_natCast, Bool.or_false, Bool.or_eq_true_iff]
  rw [hanswer]
  constructor
  · rintro (⟨i, hi, hlong⟩ | he | hsum)
    · rcases (hinstruction i hi).1 hlong with hlong | hlong
      · exact .inl (htotal i hi hlong)
      · exact .inr (.inl ⟨i, hi, hlong⟩)
    · exact .inr (.inr he)
    · exact .inl hsum
  · rintro (hsum | ⟨i, hi, hlong⟩ | he)
    · exact .inr (.inr hsum)
    · exact .inl ⟨i, hi, (hinstruction i hi).2 (.inr hlong)⟩
    · exact .inr (.inl he)

end Fields

/-! ### Bets -/

/-- Without a price file, the prices of a request are within the doubles. -/
theorem withinDoubles_of_pricesOf {s : Price.Surroundings} {fields : List (String × Value)}
    {t : Price.Table} (hs : s.priceVariable = none) (ht : pricesOf s fields = .ok t) :
    t.WithinDoubles := by
  unfold pricesOf at ht
  split at ht
  · obtain ⟨⟨u, _⟩, hu, rfl⟩ := map_eq_ok.1 ht
    rw [orRefuse_eq_ok, inUse_of_unset hs] at hu
    obtain ⟨rfl, _⟩ := Prod.mk.inj (Except.ok.inj hu)
    exact Price.Table.withinDoubles_reference
  · exact Price.Table.withinDoubles_build (orRefuse_eq_ok.1 ht)

/-- The bet of a request whose play type is known. -/
def givenBet (bet : List (String × Value)) (playType : String) : Bet :=
  ⟨.text playType, (Value.get bet "numbers").orElse (.text ""),
    (Value.get bet "amount").orElse (.int 0)⟩

/-- Why the prize of a bet is not answered. -/
inductive BetFails (s : Price.Surroundings) (fields : List (String × Value)) : Prop where
  /-- The first fault of the prices is an integer beyond the doubles. -/
  | prices (h : Price.OversizedFirst (Value.get fields "prices"))
  /-- The bet cannot be paid in the draw. -/
  | bet {prices : Price.Table} {bet : List (String × Value)} {playType : String}
      {limited : List Value} {numbers : List String} {d : Draw}
      (hprices : pricesOf s fields = .ok prices)
      (hbet : (Value.get fields "bet").orElse (.object []) = .object bet)
      (hplayType : presentTextOf bet "play_type" = .ok playType)
      (hlimited : (Value.get fields "limited").orElse (.list []) = .list limited)
      (hnumbers : limited.mapM Value.written = .ok numbers)
      (hdraw : Draw.ofValue? (Value.get fields "result") = some d)
      (h : (givenBet bet playType).Unpayable d numbers prices)

/-- What a prize is answered with holds no long integer, so it is answered unless there is none. -/
theorem breaks_prize {b : Bet} {prices : Price.Table} (d : Option Draw) (numbers : List String)
    (hn : b.numbers.hasLongInteger = false) (ht : ∃ name, b.playType = .text name)
    (hprices : prices.WithinDoubles) :
    Breaks (orRefuse .failed (do
      let prize ← Bet.evaluate (some b) d numbers (some prices)
      let status := if d.isNone then Status.noResult else if prize.won then .won else .lost
      .ok (.object [
        ("has_prize", .bool prize.won),
        ("pay", .real prize.pay),
        ("status", .text status.name)]))) ↔
      ∃ draw, d = some draw ∧ b.Unpayable draw numbers prices := by
  -- Only the prize can fail: what is made of it holds a truth value, a double and a word.
  have hevaluate : (∃ f, Bet.evaluate (some b) d numbers (some prices) = .error f) ↔
      ∃ draw, d = some draw ∧ b.Unpayable draw numbers prices := by
    cases d with
    | none => exact iff_of_false nofun nofun
    | some draw =>
      constructor
      · exact fun hf => ⟨draw, rfl, (Bet.exists_prize_eq_error_iff hn ht hprices).1 hf⟩
      · rintro ⟨_, hd, hu⟩
        obtain rfl := Option.some.inj hd
        exact (Bet.exists_prize_eq_error_iff hn ht hprices).2 hu
  rw [breaks_orRefuse_failed, ← hevaluate]
  constructor
  · rintro (⟨f, hf⟩ | ⟨v, hv, hlong⟩)
    · rcases bind_eq_error.1 hf with hf | ⟨_, _, hf⟩
      · exact ⟨f, hf⟩
      · cases hf
    · obtain ⟨prize, _, hv⟩ := bind_eq_ok.1 hv
      obtain rfl := Except.ok.inj hv
      cases hlong
  · rintro ⟨f, hf⟩
    exact .inl ⟨f, bind_eq_error.2 (.inl hf)⟩

section Fields

variable {s : Price.Surroundings} {fields : List (String × Value)}
  (h : Value.anyLongField fields = false)
include h

/-- **A bet goes unanswered exactly if its prize cannot be told.** -/
theorem breaks_evaluateBet (hs : s.priceVariable = none) :
    Breaks (Answer.evaluateBet s fields) ↔ BetFails s fields := by
  have hbetShort : ∀ {bet}, (Value.get fields "bet").orElse (.object []) = .object bet →
      Value.anyLongField bet = false := by
    intro bet hbet
    have hlong := Value.hasLongInteger_orElse (w := .object [])
      (Value.hasLongInteger_get h "bet") rfl
    rwa [hbet, Value.hasLongInteger] at hlong
  -- Once bet, prices and numbers are read, breaking is the prize's affair alone.
  have hprize : ∀ {bet playType prices numbers},
      (Value.get fields "bet").orElse (.object []) = .object bet →
        pricesOf s fields = .ok prices → _ :=
    fun {bet playType prices numbers} hbet hprices =>
      breaks_prize (b := givenBet bet playType) (Draw.ofValue? (Value.get fields "result")) numbers
        (Value.hasLongInteger_orElse (Value.hasLongInteger_get (hbetShort hbet) "numbers") rfl)
        ⟨playType, rfl⟩ (withinDoubles_of_pricesOf hs hprices)
  unfold Answer.evaluateBet
  rw [breaks_bind, fails_pricesOf h hs]
  constructor
  · rintro (hp | ⟨prices, hprices, hb⟩)
    · exact .prices hp
    split at hb
    · next bet hbet =>
      rw [breaks_bind,
        or_iff_right (not_fails_orRefuse (exists_presentTextOf (hbetShort hbet) _))] at hb
      obtain ⟨playType, hplayType, hb⟩ := hb
      dsimp only at hb
      split at hb
      · next limited hlimited =>
        obtain ⟨numbers, hnumbers⟩ : ∃ ss, limited.mapM Value.written = .ok ss := by
          refine exists_elements_mapM_written h "limited" ?_
          rw [elementsOf, hlimited]
          rfl
        rw [hnumbers] at hb
        obtain ⟨d, hdraw, hu⟩ := (hprize hbet hprices).1 hb
        exact .bet hprices hbet (orRefuse_eq_ok.1 hplayType) hlimited hnumbers hdraw hu
      · exact absurd hb not_breaks_explained
    · exact absurd hb not_breaks_explained
  · rintro (hp | ⟨hprices, hbet, hplayType, hlimited, hnumbers, hdraw, hu⟩)
    · exact .inl hp
    · refine .inr ⟨_, hprices, ?_⟩
      rw [hbet]
      refine breaks_bind.2 (.inr ⟨_, orRefuse_eq_ok.2 hplayType, ?_⟩)
      rw [hlimited]
      dsimp only
      rw [hnumbers]
      exact (hprize hbet hprices).2 ⟨_, hdraw, hu⟩

end Fields

end Service
end Lottery
