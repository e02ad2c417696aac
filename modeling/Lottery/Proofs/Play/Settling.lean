/-
# What the plays of a run are settled with

Rows of results are taken in one after the other, so what is known of a drawing
is its last row (`Results.get_ofRows`): a last row that is no draw leaves it
without a result, whatever was reported before.  A run settles its plays one by
one, each with the last row of its own drawing and with the limited numbers of
its own schedule:

| last row of the drawing | status | result | won | pay |
| --- | --- | --- | --- | --- |
| missing, or no draw | `resultado no disponible` | none | no | 0 |
| a draw in which the bet wins | `bingo` | as reported | yes | its prize in cents |
| a draw in which it does not | `no cogió premio` | as reported | no | 0 |

`Play.SettledAs` is this table, and `Play.settledAs_of_settleAll` says that it
holds of every play of a run.  So the other plays, the rows of other drawings
and the limited numbers of other schedules do not matter to a play.

The rows are taken in by `index_results`, and a run is `play_details`, which
passes each play to `settle_play`.
-/

import Lottery.Play.Settlement
import Lottery.Proofs.Computations
import Lottery.Proofs.Money
import Lottery.Proofs.Payout.Rules

namespace Lottery

/-! ### The last row of a drawing -/

/-- Is a row about a drawing?  Its schedule and its day count as they are written. -/
def ResultRow.isAbout (drawing : Drawing) (row : ResultRow) : Bool :=
  decide (row.schedule.written = .ok drawing.schedule ∧ row.day.written = .ok drawing.day)

namespace Results

variable {rows rows' : List ResultRow} {rs rs' : Results} {drawing : Drawing}

/-- The last of some rows that is about a drawing. -/
def lastRow? (rows : List ResultRow) (drawing : Drawing) : Option ResultRow :=
  (rows.filter (ResultRow.isAbout drawing)).getLast?

/-- A later row about a drawing comes before an earlier one. -/
theorem lastRow?_cons (row : ResultRow) (rows : List ResultRow) (drawing : Drawing) :
    lastRow? (row :: rows) drawing =
      (lastRow? rows drawing).or (if row.isAbout drawing then some row else none) := by
  unfold lastRow?
  rw [List.filter_cons]
  by_cases h : row.isAbout drawing = true
  · rw [if_pos h, if_pos h, List.getLast?_cons]
    cases (rows.filter (ResultRow.isAbout drawing)).getLast? <;> rfl
  · rw [if_neg h, if_neg h, Option.or_none]

/-- A row is about the one drawing that it is put under. -/
theorem get_add {row : ResultRow} (h : rs.add row = .ok rs') (drawing : Drawing) :
    rs'.get drawing =
      if row.isAbout drawing then Draw.ofValue? row.raw else rs.get drawing := by
  obtain ⟨schedule, hs, h⟩ := bind_eq_ok.1 h
  obtain ⟨day, hd, h⟩ := bind_eq_ok.1 h
  obtain rfl := Except.ok.inj h
  -- A row is about a drawing if both its parts can be written and are that drawing.
  have habout : row.isAbout drawing = true ↔ drawing = ⟨schedule, day⟩ := by
    rw [ResultRow.isAbout, decide_eq_true_iff, hs, hd, Except.ok.injEq, Except.ok.injEq]
    constructor
    · rintro ⟨rfl, rfl⟩
      rfl
    · rintro rfl
      exact ⟨rfl, rfl⟩
  rw [get_put]
  simp only [habout]

/-- After some rows, a drawing has its last row of them, or else what it had. -/
theorem get_foldlM_add (h : rows.foldlM add rs = .ok rs') (drawing : Drawing) :
    rs'.get drawing =
      ((lastRow? rows drawing).map fun r => Draw.ofValue? r.raw).getD (rs.get drawing) := by
  induction rows generalizing rs with
  | nil =>
    obtain rfl := Except.ok.inj h
    rfl
  | cons row rows ih =>
    rw [List.foldlM_cons] at h
    obtain ⟨rs₁, h₁, h⟩ := bind_eq_ok.1 h
    rw [ih h, get_add h₁, lastRow?_cons]
    -- A later row counts before this one, and this one before what was known.
    cases lastRow? rows drawing with
    | some r => rfl
    | none => by_cases ha : row.isAbout drawing = true <;> simp [ha]

/-- **What is known of a drawing is its last row,** even if that one is no draw. -/
theorem get_ofRows (h : ofRows rows = .ok rs) (drawing : Drawing) :
    rs.get drawing = (lastRow? rows drawing).bind fun r => Draw.ofValue? r.raw := by
  rw [get_foldlM_add h]
  cases lastRow? rows drawing <;> rfl

/-- A play that names its schedule and day by texts finds the draw of that drawing. -/
theorem find_text (rs : Results) (schedule day : String) :
    rs.find (.text schedule) (.text day) = .ok (rs.get ⟨schedule, day⟩) :=
  rfl

end Results

/-- The limited numbers of a schedule are those that are kept for it, none if none are. -/
theorem LimitedNumbers.find_text (l : LimitedNumbers) (schedule : String) :
    l.find (.text schedule) = .ok ((l.lookup (.text schedule)).getD []) :=
  rfl

/-! ### A bet that does not win -/

/-- A bet that does not win pays nothing. -/
theorem Bet.pay_of_not_won {b : Bet} {d : Draw} {limited : List String}
    {prices : Option Price.Table} {p : Prize}
    (h : Bet.evaluate (some b) (some d) limited prices = .ok p) (hw : p.won = false) :
    p.pay = .zero false := by
  cases prices with
  | none =>
    obtain rfl := Except.ok.inj h
    rfl
  | some prices =>
    obtain ⟨numbers, _, h⟩ := bind_eq_ok.1 h
    split at h
    · obtain rfl := Except.ok.inj h
      rfl
    · obtain ⟨rate, _, h⟩ := bind_eq_ok.1 h
      obtain ⟨stake, _, h⟩ := bind_eq_ok.1 h
      obtain ⟨total, htotal, h⟩ := bind_eq_ok.1 h
      obtain ⟨pay, hpay, h⟩ := bind_eq_ok.1 h
      obtain rfl := Except.ok.inj h
      have hnone : numbers.filter (b.wins d) = [] := by simpa using hw
      -- The sum of no payments is zero, and zero is zero in cents.
      rw [hnone] at htotal
      obtain rfl := Except.ok.inj htotal
      exact Except.ok.inj (hpay.symm.trans Money.ofDouble_zero)

/-! ### One play -/

namespace Play

variable {plays plays' : List Play} {rows rows' : List ResultRow} {rs rs' : Results}
  {limited limited' : LimitedNumbers} {prices : Option Price.Table} {p : Play}
  {s : Settlement} {ss ss' : List Settlement} {schedule day : String}

/-- How a play for a schedule on a day stands after some rows, with the limited numbers of each
schedule and a price table. -/
structure SettledAs (rows : List ResultRow) (limited : LimitedNumbers)
    (prices : Option Price.Table) (p : Play) (schedule day : String) (s : Settlement) : Prop where
  play_eq : s.play = p
  collected_eq : (p.collected >>= Money.ofDouble) = .ok s.collected
  /-- The last row is missing or no draw. -/
  undrawn : (∀ r, Results.lastRow? rows ⟨schedule, day⟩ = some r → Draw.ofValue? r.raw = none) →
    s.status.name = "resultado no disponible" ∧ s.result = none ∧ s.won = false ∧
      s.pay = .zero false
  /-- The last row is a draw. -/
  drawn : ∀ r raw d, Results.lastRow? rows ⟨schedule, day⟩ = some r → r.raw = .text raw →
    Draw.read? raw = some d → s.result = some raw ∧
      ∃ prize, Bet.evaluate (some p.bet) (some d) ((limited.lookup (.text schedule)).getD [])
          prices = .ok prize ∧ s.won = prize.won ∧ Money.ofDouble prize.pay = .ok s.pay ∧
        s.status.name = if prize.won then "bingo" else "no cogió premio"
  pay_eq_zero : s.won = false → s.pay = .zero false

/-- Without a draw nothing is won or paid; the amount collected is rounded all the same. -/
theorem settle_none_eq_ok {numbers : List String} (h : p.settle none numbers prices = .ok s) :
    (p.collected >>= Money.ofDouble) = .ok s.collected ∧ s.play = p ∧ s.status = .noResult ∧
      s.result = none ∧ s.won = false ∧ s.pay = .zero false := by
  obtain ⟨raw, hraw, h⟩ := bind_eq_ok.1 h
  obtain ⟨collected, hcollected, h⟩ := bind_eq_ok.1 h
  obtain rfl := Except.ok.inj h
  exact ⟨bind_eq_ok.2 ⟨raw, hraw, hcollected⟩, rfl, rfl, rfl, rfl, rfl⟩

/-- With a draw the bet of the play decides: what it pays is rounded, and so is the amount
collected. -/
theorem settle_some_eq_ok {d : Draw} {numbers : List String}
    (h : p.settle (some d) numbers prices = .ok s) :
    (p.collected >>= Money.ofDouble) = .ok s.collected ∧ s.play = p ∧ s.result = some d.text ∧
      ∃ prize, Bet.evaluate (some p.bet) (some d) numbers prices = .ok prize ∧
        s.won = prize.won ∧ Money.ofDouble prize.pay = .ok s.pay ∧
          s.status = if prize.won then .won else .lost := by
  obtain ⟨raw, hraw, h⟩ := bind_eq_ok.1 h
  obtain ⟨collected, hcollected, h⟩ := bind_eq_ok.1 h
  obtain ⟨prize, hprize, h⟩ := bind_eq_ok.1 h
  obtain ⟨pay, hpay, h⟩ := bind_eq_ok.1 h
  obtain rfl := Except.ok.inj h
  exact ⟨bind_eq_ok.2 ⟨raw, hraw, hcollected⟩, rfl, rfl, prize, hprize, rfl, hpay, rfl⟩

/-- A play is settled with the last row of its drawing and the limited numbers of its
schedule. -/
theorem settleFrom_eq (hrs : Results.ofRows rows = .ok rs) (hs : p.scheduleId = .text schedule)
    (hd : p.day = .text day) :
    settleFrom rs limited prices p =
      p.settle ((Results.lastRow? rows ⟨schedule, day⟩).bind fun r => Draw.ofValue? r.raw)
        ((limited.lookup (.text schedule)).getD []) prices := by
  rw [settleFrom, hs, hd, Results.find_text, LimitedNumbers.find_text, Results.get_ofRows hrs]
  rfl

/-- **A play is settled by the last row about its drawing,** even if that row holds no draw. -/
theorem settledAs_of_settleFrom (hrs : Results.ofRows rows = .ok rs)
    (hs : p.scheduleId = .text schedule) (hd : p.day = .text day)
    (h : settleFrom rs limited prices p = .ok s) :
    SettledAs rows limited prices p schedule day s := by
  rw [settleFrom_eq hrs hs hd] at h
  -- Whether there is a draw depends on the last row alone, also where that is no draw.
  cases hlast : (Results.lastRow? rows ⟨schedule, day⟩).bind fun r => Draw.ofValue? r.raw with
  | none =>
    rw [hlast] at h
    obtain ⟨hc, hp, hstatus, hresult, hwon, hpay⟩ := settle_none_eq_ok h
    refine ⟨hp, hc, fun _ => ⟨by rw [hstatus]; rfl, hresult, hwon, hpay⟩, ?_, fun _ => hpay⟩
    intro r raw d hr hraw hread
    rw [hr, Option.bind_some, hraw] at hlast
    exact absurd (hread.symm.trans hlast) (Option.some_ne_none d)
  | some d =>
    rw [hlast] at h
    obtain ⟨hc, hp, hresult, prize, hprize, hwon, hpay, hstatus⟩ := settle_some_eq_ok h
    obtain ⟨r, hr, hraw⟩ := Option.bind_eq_some_iff.1 hlast
    refine ⟨hp, hc, fun hnone => ?_, ?_, fun hlost => ?_⟩
    · rw [hnone r hr] at hraw
      cases hraw
    · intro r' raw d' hr' hraw' hread
      obtain rfl := Option.some.inj (hr.symm.trans hr')
      rw [hraw'] at hraw
      obtain rfl := Option.some.inj (hread.symm.trans hraw)
      refine ⟨by rw [hresult, Draw.text_of_read? hread], prize, hprize, hwon, hpay, ?_⟩
      rw [hstatus]
      cases prize.won <;> rfl
    · have hzero := Bet.pay_of_not_won hprize (hwon ▸ hlost)
      rw [hzero, Money.ofDouble_zero] at hpay
      exact (Except.ok.inj hpay).symm

/-! ### A run -/

/-- **Every play of a run is settled by its own drawing and schedule.**  Whenever the results of
some rows are known and a run of plays is settled, it has one settlement for each play, in their
order, as the last row of the drawing of that play decides.  Another run at the same prices
settles the same play in the same way if the last row of its drawing and the limited numbers of
its schedule are the same, whatever other plays, rows and schedules there are. -/
theorem settledAs_of_settleAll (hrs : Results.ofRows rows = .ok rs)
    (hss : settleAll plays rs limited prices = .ok ss) :
    ss.length = plays.length ∧
      (∀ (i : Nat) (p : Play) (s : Settlement) (schedule day : String), plays[i]? = some p →
        ss[i]? = some s → p.scheduleId = .text schedule → p.day = .text day →
          SettledAs rows limited prices p schedule day s) ∧
      ∀ (rows' : List ResultRow) (rs' : Results) (plays' : List Play) (limited' : LimitedNumbers)
        (ss' : List Settlement), Results.ofRows rows' = .ok rs' →
        settleAll plays' rs' limited' prices = .ok ss' →
          ∀ (i j : Nat) (p : Play) (schedule day : String), plays[i]? = some p →
            plays'[j]? = some p → p.scheduleId = .text schedule → p.day = .text day →
            Results.lastRow? rows' ⟨schedule, day⟩ = Results.lastRow? rows ⟨schedule, day⟩ →
            limited'.lookup (.text schedule) = limited.lookup (.text schedule) →
              ss'[j]? = ss[i]? := by
  refine ⟨length_of_mapM_eq_ok hss, ?_, ?_⟩
  · intro i p s schedule day hp hs hschedule hday
    obtain ⟨s', hs', hps⟩ := exists_getElem?_of_mapM_eq_ok hss hp
    obtain rfl := Option.some.inj (hs.symm.trans hs')
    exact settledAs_of_settleFrom hrs hschedule hday hps
  · intro rows' rs' plays' limited' ss' hrs' hss' i j p schedule day hi hj hschedule hday
      hrow hlimited
    obtain ⟨s, hs, hps⟩ := exists_getElem?_of_mapM_eq_ok hss hi
    obtain ⟨s', hs', hps'⟩ := exists_getElem?_of_mapM_eq_ok hss' hj
    -- Both settlements are computed from the last row and the limited numbers of the schedule,
    -- which are the same.
    rw [settleFrom_eq hrs hschedule hday] at hps
    rw [settleFrom_eq hrs' hschedule hday, hrow, hlimited, hps] at hps'
    rw [hs, hs', Except.ok.inj hps']

/-- Three rows: a draw for one schedule, later withdrawn, and a draw for another. -/
def withdrawnRows : List ResultRow :=
  [⟨.text "s1", .text "d1", .text "134 3459"⟩, ⟨.text "7", .text "d1", .text "134 3459"⟩,
    ⟨.text "s1", .text "d1", .text "134 345"⟩]

/-- A parle that wins in the draw of the rows. -/
def winningParle (schedule : String) : Play :=
  ⟨.text "parle", .text "5934,12", .int 2, .text schedule, .text "d1", .null, .text "", .text "",
    .text "", .text ""⟩

/-- The same parle in two schedules: the withdrawn draw leaves the one open, and the other wins at
the limited multiplier, there and in another run. -/
theorem settledAs_of_settleAll_withdrawn :
    ∃ ss ss' : List Settlement,
      Results.ofRows withdrawnRows =
        .ok [(⟨"s1", "d1"⟩, none), (⟨"7", "d1"⟩, some ⟨1, ⟨3, 4⟩, ⟨3, 4⟩, ⟨5, 9⟩⟩)] ∧
      settleAll [winningParle "s1", winningParle "7"]
        [(⟨"s1", "d1"⟩, none), (⟨"7", "d1"⟩, some ⟨1, ⟨3, 4⟩, ⟨3, 4⟩, ⟨5, 9⟩⟩)]
        [(.text "7", ["5934"])] (some .reference) = .ok ss ∧
      (ss.map fun s => (s.status, s.result, s.won, s.pay)) =
        [(.noResult, none, false, .zero false), (.won, some "134 3459", true, .ofInt 1800)] ∧
      (∀ s, ss[0]? = some s → SettledAs withdrawnRows [(.text "7", ["5934"])] (some .reference)
        (winningParle "s1") "s1" "d1" s) ∧
      Results.ofRows [⟨.int 7, .text "d1", .null⟩, ⟨.text "7", .text "d1", .text "134 3459"⟩] =
        .ok [(⟨"7", "d1"⟩, some ⟨1, ⟨3, 4⟩, ⟨3, 4⟩, ⟨5, 9⟩⟩)] ∧
      settleAll [winningParle "7"] [(⟨"7", "d1"⟩, some ⟨1, ⟨3, 4⟩, ⟨3, 4⟩, ⟨5, 9⟩⟩)]
        [(.text "s1", ["12"]), (.text "7", ["5934"])] (some .reference) = .ok ss' ∧
      ss'[0]? = ss[1]? := by
  have hrs : Results.ofRows withdrawnRows =
      .ok [(⟨"s1", "d1"⟩, none), (⟨"7", "d1"⟩, some ⟨1, ⟨3, 4⟩, ⟨3, 4⟩, ⟨5, 9⟩⟩)] := by
    decide +kernel
  have hrs' : Results.ofRows
      [⟨.int 7, .text "d1", .null⟩, ⟨.text "7", .text "d1", .text "134 3459"⟩] =
        .ok [(⟨"7", "d1"⟩, some ⟨1, ⟨3, 4⟩, ⟨3, 4⟩, ⟨5, 9⟩⟩)] := by
    decide +kernel
  -- The result of `s1` was withdrawn by a later row, that of `7` came as a number once.
  obtain ⟨ss, hss, hview⟩ : ∃ ss, settleAll [winningParle "s1", winningParle "7"]
      [(⟨"s1", "d1"⟩, none), (⟨"7", "d1"⟩, some ⟨1, ⟨3, 4⟩, ⟨3, 4⟩, ⟨5, 9⟩⟩)]
      [(.text "7", ["5934"])] (some .reference) = .ok ss ∧
        (ss.map fun s => (s.status, s.result, s.won, s.pay)) =
          [(.noResult, none, false, .zero false), (.won, some "134 3459", true, .ofInt 1800)] := by
    decide +kernel
  obtain ⟨ss', hss', _⟩ : ∃ ss', settleAll [winningParle "7"]
      [(⟨"7", "d1"⟩, some ⟨1, ⟨3, 4⟩, ⟨3, 4⟩, ⟨5, 9⟩⟩)]
      [(.text "s1", ["12"]), (.text "7", ["5934"])] (some .reference) = .ok ss' ∧
        ss'.length = 1 := by
    decide +kernel
  obtain ⟨_, hsettled, hother⟩ := settledAs_of_settleAll hrs hss
  refine ⟨ss, ss', hrs, hss, hview, ?_, hrs', hss', ?_⟩
  · intro s hs
    exact hsettled 0 _ s "s1" "d1" rfl hs rfl rfl
  · exact hother _ _ _ _ ss' hrs' hss' 1 0 _ "7" "d1" rfl rfl rfl rfl rfl rfl

end Play
end Lottery
