/-
# When plays cannot be settled

Amounts are added as doubles and rounded to cents, which bounds them: a sum of
more than 28 digits in cents fails, and so does an integer beyond the doubles.
Nothing else does, for plays whose texts are texts and whose amounts are
doubles (`Play.Plain`):

| computed | fails if |
| --- | --- |
| the prize of a bet | its amount is beyond the doubles, or the prize beyond cents |
| a settlement | what was collected or is paid is beyond cents, or the prize fails |
| a tally | the sum of what was collected or paid for its group is beyond cents |
| a summary | so is that for all, or the difference of the two sums |

Tallies by day can then be put in order.

Plays are settled by `settle_play` and summed up by `group_settlements` and
`summarize`.
-/

import Lottery.Proofs.Payout.Failures
import Lottery.Proofs.Play.Grouping

namespace Lottery

/-! ### Bets -/

namespace Bet

variable {b : Bet} {d : Draw} {limited : List String} {prices : Price.Table}

/-- A bet that names a number and cannot be paid in a draw: its amount is an integer beyond the
doubles, or its payments add up to more than 28 digits in cents. -/
def Unpayable (b : Bet) (d : Draw) (limited : List String) (prices : Price.Table) : Prop :=
  ∃ numbers rate, Numbers.ofValue b.numbers = .ok numbers ∧ numbers ≠ [] ∧
    b.rate prices = .ok rate ∧ (b.amount.IsBeyond ∨ ∃ stake total, b.amount.weight = .ok stake ∧
      payments stake rate limited (numbers.filter (b.wins d)) = .ok total ∧ total.IsBeyondCents)

/-- **A bet has no prize exactly if it is unpayable.** -/
theorem exists_prize_eq_error_iff (hn : b.numbers.hasLongInteger = false)
    (ht : ∃ name, b.playType = .text name) (hp : prices.WithinDoubles) :
    (∃ f, b.prize d limited prices = .error f) ↔ b.Unpayable d limited prices := by
  obtain ⟨name, hname⟩ := ht
  obtain ⟨ns, hns⟩ := Numbers.exists_ofValue hn
  have hrate := rate_text hname prices
  obtain ⟨onLimited, hl⟩ := Value.exists_weight (hp.rate name).1
  obtain ⟨onOther, ho⟩ := Value.exists_weight (hp.rate name).2
  simp only [prize_eq_error_iff hname hp]
  -- Either the stake is beyond the doubles, or the sum of the payments beyond cents.
  cases hstake : b.amount.weight with
  | error f' =>
    obtain ⟨rfl, hbeyond⟩ := Value.weight_eq_error_iff.1 hstake
    simp only [failsWith_of_isBeyond hns hbeyond, exists_eq_left]
    constructor
    · exact fun hne => ⟨ns, _, hns, hne, hrate, .inl hbeyond⟩
    · rintro ⟨ns', _, hns', hne, _⟩
      obtain rfl := Except.ok.inj (hns.symm.trans hns')
      exact hne
  | ok stake =>
    simp only [failsWith_of_weight hns hrate hstake hl ho, exists_eq_left]
    constructor
    · intro hcents
      refine ⟨ns, _, hns, ?_, hrate, .inr ⟨stake, _, hstake, payments_eq_sum hl ho _ _ _, hcents⟩⟩
      rintro rfl
      exact Money.not_isBeyondCents_zero hcents
    · rintro ⟨ns', rate, hns', _, hrate', h⟩
      obtain rfl := Except.ok.inj (hns.symm.trans hns')
      obtain rfl := Except.ok.inj (hrate.symm.trans hrate')
      rcases h with hbeyond | ⟨stake', total, hstake', htotal, hcents⟩
      · cases hstake.symm.trans (Value.weight_eq_error_iff.2 ⟨rfl, hbeyond⟩)
      · obtain rfl := Except.ok.inj (hstake.symm.trans hstake')
        obtain rfl := Except.ok.inj ((payments_eq_sum hl ho _ _ _).symm.trans htotal)
        exact hcents

end Bet

/-! ### Plays -/

namespace Play

variable {p : Play} {plays : List Play} {d : Option Draw} {numbers : List String}
  {results : Results} {limited : LimitedNumbers} {prices : Price.Table}

/-- A play whose texts are texts and whose amounts are doubles. -/
structure Plain (p : Play) : Prop where
  playType : ∃ s, p.playType = .text s
  numbers : ∃ s, p.numbers = .text s
  amount : ∃ x, p.amount = .real x
  scheduleId : ∃ s, p.scheduleId = .text s
  day : ∃ s, p.day = .text s
  total : p.total = .null ∨ ∃ x, p.total = .real x
  lottery : ∃ s, p.lottery = .text s
  schedule : ∃ s, p.schedule = .text s
  agent : ∃ s, p.agent = .text s

/-- The amount collected for a plain play is known. -/
theorem Plain.exists_collected (hp : p.Plain) : ∃ x, p.collected = .ok x := by
  unfold collected
  obtain ⟨x, hx⟩ := hp.amount
  obtain ⟨s, hs⟩ := hp.numbers
  -- Without a total the amount is multiplied by the number of numbers.
  rcases hp.total with ht | ⟨y, hy⟩
  · rw [ht, hx, hs]
    refine exists_bind_eq_ok (Value.exists_amount_real x) fun _ =>
      exists_bind_eq_ok ?_ fun _ => ⟨_, rfl⟩
    unfold Numbers.count
    split
    · exact ⟨0, rfl⟩
    · exact ⟨_, rfl⟩
  · rw [hy]
    exact ⟨y, rfl⟩

/-- The play type of its bet is a text, the word for none if the play names none. -/
theorem Plain.playType_bet (hp : p.Plain) : ∃ name, p.bet.playType = .text name := by
  obtain ⟨s, hs⟩ := hp.playType
  show ∃ name, p.playType.orElse unnamed = .text name
  rw [hs, Value.orElse]
  split
  · exact ⟨s, rfl⟩
  · exact ⟨_, rfl⟩

/-- A play that cannot be settled: what was collected for it has more than 28 digits in cents, or
its bet cannot be paid in the draw. -/
def Unsettled (p : Play) (d : Option Draw) (numbers : List String) (prices : Price.Table) : Prop :=
  (∃ x, p.collected = .ok x ∧ x.IsBeyondCents) ∨ ∃ draw, d = some draw ∧
    (p.bet.Unpayable draw numbers prices ∨
      ∃ prize, p.bet.prize draw numbers prices = .ok prize ∧ prize.pay.IsBeyondCents)

/-- **A plain play is not settled exactly if its prize or its amount collected cannot be told.** -/
theorem exists_settle_eq_error_iff (hp : p.Plain) (hprices : prices.WithinDoubles) :
    (∃ f, p.settle d numbers (some prices) = .error f) ↔ p.Unsettled d numbers prices := by
  have hshort : p.bet.numbers.hasLongInteger = false := by
    obtain ⟨s, hs⟩ := hp.numbers
    show p.numbers.hasLongInteger = false
    rw [hs]
    rfl
  have hprize : ∀ {draw}, (∃ f, p.bet.prize draw numbers prices = .error f) ↔
      p.bet.Unpayable draw numbers prices :=
    Bet.exists_prize_eq_error_iff hshort hp.playType_bet hprices
  constructor
  · rintro ⟨f, h⟩
    -- Step by step: collecting never fails, so rounding it, the prize and rounding that are left.
    rcases bind_eq_error.1 h with h | ⟨x, hx, h⟩
    · obtain ⟨x, hx⟩ := hp.exists_collected
      rw [hx] at h
      cases h
    rcases bind_eq_error.1 h with h | ⟨collected, _, h⟩
    · exact .inl ⟨x, hx, (Money.ofDouble_eq_error_iff.1 h).2⟩
    cases d with
    | none => cases h
    | some draw =>
      refine .inr ⟨draw, rfl, ?_⟩
      rcases bind_eq_error.1 h with h | ⟨prize, hpz, h⟩
      · exact .inl (hprize.1 ⟨f, h⟩)
      rcases bind_eq_error.1 h with h | ⟨_, _, h⟩
      · exact .inr ⟨prize, hpz, (Money.ofDouble_eq_error_iff.1 h).2⟩
      · cases h
  · intro h
    obtain ⟨x, hx⟩ := hp.exists_collected
    unfold settle
    rw [bind_of_eq_ok hx]
    cases hc : Money.ofDouble x with
    | error f => exact ⟨f, rfl⟩
    | ok collected =>
      rcases h with ⟨y, hy, hcents⟩ | ⟨draw, rfl, hbet | ⟨prize, hpz, hcents⟩⟩
      · obtain rfl := Except.ok.inj (hx.symm.trans hy)
        rw [Money.ofDouble_eq_error_iff.2 ⟨rfl, hcents⟩] at hc
        cases hc
      · obtain ⟨f, hf⟩ := hprize.2 hbet
        rw [bind_of_eq_ok rfl]
        exact ⟨f, bind_eq_error.2 (.inl hf)⟩
      · rw [bind_of_eq_ok rfl]
        dsimp only [Bet.evaluate]
        rw [bind_of_eq_ok hpz]
        exact ⟨_, bind_eq_error.2 (.inl (Money.ofDouble_eq_error_iff.2 ⟨rfl, hcents⟩))⟩

variable {results : Results} {schedules : LimitedNumbers}

/-- Some run fails exactly if one of its plays cannot be settled with the draw and the limited
numbers of its schedule. -/
theorem exists_settleAll_eq_error_iff (hplays : ∀ p ∈ plays, p.Plain)
    (hprices : prices.WithinDoubles) :
    (∃ f, settleAll plays results schedules (some prices) = .error f) ↔
      ∃ p ∈ plays, ∃ s d, p.scheduleId = .text s ∧ p.day = .text d ∧
        p.Unsettled (results.get ⟨s, d⟩) ((schedules.lookup (.text s)).getD []) prices := by
  -- Drawings and limited numbers are found by texts, which a plain play has.
  have hsettle : ∀ {p}, p ∈ plays → ∀ {s d}, p.scheduleId = .text s → p.day = .text d →
      ((∃ f, settleFrom results schedules (some prices) p = .error f) ↔
        p.Unsettled (results.get ⟨s, d⟩) ((schedules.lookup (.text s)).getD []) prices) := by
    intro p hp s d hs hd
    rw [settleFrom, hs, hd, Results.find_text, LimitedNumbers.find_text]
    exact exists_settle_eq_error_iff (hplays p hp) hprices
  rw [settleAll, exists_mapM_eq_error_iff]
  constructor
  · rintro ⟨p, hp, h⟩
    obtain ⟨s, hs⟩ := (hplays p hp).scheduleId
    obtain ⟨d, hd⟩ := (hplays p hp).day
    exact ⟨p, hp, s, d, hs, hd, (hsettle hp hs hd).1 h⟩
  · rintro ⟨p, hp, s, d, hs, hd, h⟩
    exact ⟨p, hp, (hsettle hp hs hd).2 h⟩

/-- Under a grouping that a word names, the key of a play is a text. -/
theorem Plain.exists_key {g : Grouping} {word : String} (hp : p.Plain)
    (hg : Grouping.ofName? word = some g) :
    ∃ s, g.key p = .text s ∧ g.asKey p = .ok (.text s) := by
  have hkey : ∀ {v : Value}, (∃ s, v = .text s) → ∃ s, v = .text s ∧ v.asKey = .ok (.text s) := by
    rintro _ ⟨s, rfl⟩
    exact ⟨s, rfl, rfl⟩
  -- Each grouping with a name reads one field of the play, and all these are texts.
  unfold Grouping.ofName? at hg
  split at hg
  · obtain rfl := Option.some.inj hg
    exact hkey hp.day
  split at hg
  · obtain rfl := Option.some.inj hg
    exact hkey hp.scheduleId
  split at hg
  · obtain rfl := Option.some.inj hg
    exact hkey hp.lottery
  split at hg
  · obtain rfl := Option.some.inj hg
    exact hkey hp.agent
  · cases hg

end Play

/-! ### Groups -/

namespace Settlement

/-- What was collected or paid for some settlements sums up to more than 28 digits in cents. -/
def SumsBeyondCents (ss : List Settlement) : Prop :=
  (Binary64.sum (ss.map collected)).IsBeyondCents ∨ (Binary64.sum (ss.map pay)).IsBeyondCents

end Settlement

namespace Tally

/-- A tally cannot be rounded exactly if one of its two sums is beyond cents. -/
theorem exists_rounded_eq_error_iff {t : Tally} :
    (∃ f, t.rounded = .error f) ↔ t.collected.IsBeyondCents ∨ t.paid.IsBeyondCents := by
  constructor
  · rintro ⟨f, h⟩
    -- The two amounts are rounded one after the other, and nothing else can fail.
    rcases bind_eq_error.1 h with h | ⟨_, _, h⟩
    · exact .inl (Money.ofDouble_eq_error_iff.1 h).2
    rcases bind_eq_error.1 h with h | ⟨_, _, h⟩
    · exact .inr (Money.ofDouble_eq_error_iff.1 h).2
    · cases h
  · intro h
    unfold rounded
    cases hc : Money.ofDouble t.collected with
    | error f => exact ⟨f, rfl⟩
    | ok c =>
      rcases h with hcollected | hpaid
      · rw [Money.ofDouble_eq_error_iff.2 ⟨rfl, hcollected⟩] at hc
        cases hc
      · rw [bind_of_eq_ok rfl]
        exact ⟨_, bind_eq_error.2 (.inl (Money.ofDouble_eq_error_iff.2 ⟨rfl, hpaid⟩))⟩

end Tally

namespace Settlement

variable {g : Grouping} {ss : List Settlement}

/-- **Plays cannot be grouped exactly if the sums of some group are beyond cents.** -/
theorem exists_group_eq_error_iff (h : ∀ s ∈ ss, ∃ k, g.asKey s.play = .ok k) :
    (∃ f, group g ss = .error f) ↔
      ∃ s ∈ ss, SumsBeyondCents (members g (g.key s.play) ss) := by
  obtain ⟨ts, hts⟩ : ∃ ts, (ss.foldlM (fun tallies s => do
      let _ ← g.asKey s.play
      .ok (Tally.enter g s tallies)) [] : Except Fault (List Tally)) = .ok ts :=
    exists_foldlM_eq_ok (fun s hs ts => by
      obtain ⟨k, hk⟩ := h s hs
      rw [hk]
      exact ⟨_, rfl⟩) []
  have hgroup : (∃ f, group g ss = .error f) ↔ ∃ t ∈ ts, ∃ f, t.rounded = .error f := by
    rw [group, hts]
    exact exists_mapM_eq_error_iff
  obtain ⟨hself, rfl⟩ := foldlM_enter_eq_ok hts
  have hentered := Tally.entered_foldl hself
  -- The amounts of a tally are the sums for the settlements with its key.
  have hsums : ∀ t ∈ ss.foldl (fun ts s => Tally.enter g s ts) [],
      (t.collected.IsBeyondCents ∨ t.paid.IsBeyondCents ↔
        SumsBeyondCents (members g t.key ss)) := by
    intro t ht
    obtain ⟨s, ms, hms, _, htally⟩ := hentered.tallied t ht
    rw [Tally.foldl_add] at htally
    rw [hms, htally]
    rfl
  rw [hgroup]
  constructor
  · rintro ⟨t, ht, hf⟩
    obtain ⟨s, ms, hms, hkey, _⟩ := hentered.tallied t ht
    have hs : s ∈ members g t.key ss := hms ▸ List.mem_cons_self
    refine ⟨s, (List.mem_filter.1 hs).1, ?_⟩
    rw [← hkey]
    exact (hsums t ht).1 (Tally.exists_rounded_eq_error_iff.1 hf)
  · rintro ⟨s, hs, hbeyond⟩
    obtain ⟨t, ht, hk⟩ := hentered.complete s hs
    refine ⟨t, ht, Tally.exists_rounded_eq_error_iff.2 ((hsums t ht).2 ?_)⟩
    rwa [members_congr hk]

/-- A summary fails as its three amounts do. -/
theorem exists_summarize_eq_error_iff (ss : List Settlement) :
    (∃ f, summarize ss = .error f) ↔ SumsBeyondCents ss ∨
      ((Binary64.sum (ss.map collected)).sub (Binary64.sum (ss.map pay))).IsBeyondCents := by
  unfold summarize SumsBeyondCents
  generalize Binary64.sum (ss.map collected) = c
  generalize Binary64.sum (ss.map pay) = p
  constructor
  · rintro ⟨f, h⟩
    -- The two sums are rounded and then their difference, each with the same cause of failing.
    rcases bind_eq_error.1 h with h | ⟨_, _, h⟩
    · exact .inl (.inl (Money.ofDouble_eq_error_iff.1 h).2)
    rcases bind_eq_error.1 h with h | ⟨_, _, h⟩
    · exact .inl (.inr (Money.ofDouble_eq_error_iff.1 h).2)
    rcases bind_eq_error.1 h with h | ⟨_, _, h⟩
    · exact .inr (Money.ofDouble_eq_error_iff.1 h).2
    · cases h
  · intro h
    dsimp only
    cases hc : Money.ofDouble c with
    | error f => exact ⟨f, rfl⟩
    | ok c' =>
      cases hp : Money.ofDouble p with
      | error f => exact ⟨f, rfl⟩
      | ok p' =>
        rcases h with (hbeyond | hbeyond) | hbeyond
        · rw [Money.ofDouble_eq_error_iff.2 ⟨rfl, hbeyond⟩] at hc
          cases hc
        · rw [Money.ofDouble_eq_error_iff.2 ⟨rfl, hbeyond⟩] at hp
          cases hp
        · rw [bind_of_eq_ok rfl, bind_of_eq_ok rfl]
          exact ⟨_, bind_eq_error.2 (.inl (Money.ofDouble_eq_error_iff.2 ⟨rfl, hbeyond⟩))⟩

end Settlement
end Lottery
