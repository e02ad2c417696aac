/-
# Statistics that are not answered

The plays of a request are settled (`settlementsOf`) and summed up (`sumUp`).
What keeps them from it, in the order in which it is met:

| step | breaks if |
| --- | --- |
| prices, plays | the first fault is an integer beyond the doubles |
| limited numbers | those of a schedule are no collection |
| settling | a play cannot be settled with its drawing |
| groups, summary | a sum or the balance is beyond cents |
| the answer | the number of plays of a group is a long integer |

The view is `statistics_view`, with its plays, results, prices and limited
numbers.
-/

import Lottery.Proofs.Service.Answers

namespace Lottery
namespace Service

/-! ### Settling -/

/-- The settlements of the plays of a request. -/
def settlementsOf (s : Price.Surroundings) (fields : List (String × Value)) :
    Except Refusal (List Settlement) := do
  let prices ← pricesOf s fields
  let plays ← playsOf fields
  let results ← resultsOf fields
  let limited ← limitedOf fields
  orRefuse .failed (Play.settleAll plays results limited (some prices))

/-- Tallies in the order in which they are answered. -/
def ordered (g : Grouping) (ts : List Tally) : Except Fault (List Tally) :=
  match g with
  | .day => Tally.sorted ts
  | _ => .ok ts

/-- The answer that some groups and a summary are given in. -/
def shownSums (word : String) (groups : List Tally) (summary : Summary) : Value :=
  .object [
    ("grouping", .text word),
    ("groups", .list (groups.map Show.tally)),
    ("summary", Show.summary summary)]

/-- The groups and the summary of some settlements. -/
def sumUp (word : String) (g : Grouping) (ss : List Settlement) : Except Fault Value := do
  let groups ← Settlement.group g ss
  let groups ← ordered g groups
  let summary ← Settlement.summarize ss
  .ok (shownSums word groups summary)

/-- Statistics settle the plays of the fields, and sum them up. -/
theorem stats_eq (s : Price.Surroundings) (word : String) (g : Grouping)
    (fields : List (String × Value)) : Answer.stats s word g fields =
      settlementsOf s fields >>= fun ss => orRefuse .failed (sumUp word g ss) := by
  unfold Answer.stats settlementsOf
  simp only [bind_assoc, ← orRefuse_bind]
  cases g <;> rfl

/-- Why the plays of a request are not settled. -/
inductive SettlingFails (s : Price.Surroundings) (fields : List (String × Value)) : Prop where
  /-- The first fault of the prices is an integer beyond the doubles. -/
  | prices (h : Price.OversizedFirst (Value.get fields "prices"))
  /-- The first play that is not in order has an amount beyond the doubles. -/
  | play {prices : Price.Table} (hprices : pricesOf s fields = .ok prices)
      (h : OversizedPlays fields)
  /-- Limited numbers that are no collection. -/
  | limited {prices : Price.Table} {plays : List Play} {results : Results}
      (hprices : pricesOf s fields = .ok prices) (hplays : playsOf fields = .ok plays)
      (hresults : resultsOf fields = .ok results) (h : LimitedNotIterable fields)
  /-- A play that cannot be settled with what is known of its drawing. -/
  | settlement {prices : Price.Table} {plays : List Play} {results : Results}
      {limited : LimitedNumbers} {p : Play} {schedule day : String}
      (hprices : pricesOf s fields = .ok prices) (hplays : playsOf fields = .ok plays)
      (hresults : resultsOf fields = .ok results) (hlimited : limitedOf fields = .ok limited)
      (hp : p ∈ plays) (hschedule : p.scheduleId = .text schedule) (hday : p.day = .text day)
      (h : p.Unsettled (results.get ⟨schedule, day⟩)
        ((limited.lookup (.text schedule)).getD []) prices)

section Fields

variable {s : Price.Surroundings} {fields : List (String × Value)}
  (h : Value.anyLongField fields = false) (hs : s.priceVariable = none)
include h hs

/-- **The plays are not settled exactly if reading the prices, the plays or the limited numbers
fails, or settling one of the plays.** -/
theorem fails_settlementsOf : Fails (settlementsOf s fields) ↔ SettlingFails s fields := by
  have hsettle : ∀ {prices plays results limited}, pricesOf s fields = .ok prices →
      playsOf fields = .ok plays →
        (Fails (orRefuse .failed (Play.settleAll plays results limited (some prices))) ↔
          ∃ p ∈ plays, ∃ schedule day, p.scheduleId = .text schedule ∧ p.day = .text day ∧
            p.Unsettled (results.get ⟨schedule, day⟩)
              ((limited.lookup (.text schedule)).getD []) prices) := by
    intro prices plays results limited hprices hplays
    rw [fails_orRefuse_failed]
    exact Play.exists_settleAll_eq_error_iff (plain_of_playsOf hplays)
      (withinDoubles_of_pricesOf hs hprices)
  unfold settlementsOf
  rw [fails_bind, fails_pricesOf h hs]
  constructor
  -- In the order of reading: prices, plays, results, limited numbers, and then the settling.
  · rintro (hf | ⟨prices, hprices, hf⟩)
    · exact .prices hf
    rcases fails_bind.1 hf with hf | ⟨plays, hplays, hf⟩
    · exact .play hprices ((fails_playsOf h).1 hf)
    rcases fails_bind.1 hf with hf | ⟨results, hresults, hf⟩
    · exact absurd hf (not_fails_resultsOf h)
    rcases fails_bind.1 hf with hf | ⟨limited, hlimited, hf⟩
    · exact .limited hprices hplays hresults ((fails_limitedOf h).1 hf)
    obtain ⟨p, hp, schedule, day, hschedule, hday, hu⟩ := (hsettle hprices hplays).1 hf
    exact .settlement hprices hplays hresults hlimited hp hschedule hday hu
  · intro hf
    cases hf with
    | prices hf => exact .inl hf
    | play hprices hf =>
      refine .inr ⟨_, hprices, ?_⟩
      exact fails_bind.2 (.inl ((fails_playsOf h).2 hf))
    | limited hprices hplays hresults hf =>
      refine .inr ⟨_, hprices, ?_⟩
      rw [bind_of_eq_ok hplays, bind_of_eq_ok hresults]
      exact fails_bind.2 (.inl ((fails_limitedOf h).2 hf))
    | settlement hprices hplays hresults hlimited hp hschedule hday hu =>
      refine .inr ⟨_, hprices, ?_⟩
      rw [bind_of_eq_ok hplays, bind_of_eq_ok hresults, bind_of_eq_ok hlimited]
      exact (hsettle hprices hplays).2 ⟨_, hp, _, _, hschedule, hday, hu⟩

end Fields

/-! ### Summing up -/

/-- Why settlements are not summed up. -/
inductive SummingFails (g : Grouping) (ss : List Settlement) : Prop where
  /-- What was collected or paid for a group sums up beyond cents. -/
  | group {s : Settlement} (hs : s ∈ ss)
      (h : Settlement.SumsBeyondCents (Settlement.members g (g.key s.play) ss))
  /-- So does what was collected or paid for all of them. -/
  | summary (h : Settlement.SumsBeyondCents ss)
  /-- The difference of what was collected and paid is beyond cents. -/
  | balance (h : ((Binary64.sum (ss.map Settlement.collected)).sub
      (Binary64.sum (ss.map Settlement.pay))).IsBeyondCents)
  /-- The number of plays of a group is a long integer. -/
  | plays {s : Settlement} (hs : s ∈ ss)
      (h : Text.isLong (Settlement.members g (g.key s.play) ss).length = true)

section Groups

variable {word : String} {g : Grouping} {ss : List Settlement} {ts : List Tally}
  (hg : Grouping.ofName? word = some g) (hplain : ∀ s ∈ ss, s.play.Plain)
include hg hplain

/-- The key of a tally is the text that is the key of one of its settlements. -/
theorem exists_text_key (hts : Settlement.group g ss = .ok ts) :
    ∀ t ∈ ts, ∃ s ∈ ss, t.key = g.key s.play ∧ ∃ k, t.key = .text k := by
  intro t ht
  obtain ⟨s, hs, hkey⟩ := (Settlement.partitions_of_group hts).key_eq t ht
  have hmem : s ∈ ss := (List.mem_filter.1 (List.mem_of_mem_head? hs)).1
  obtain ⟨k, hk, _⟩ := (hplain s hmem).exists_key hg
  exact ⟨s, hmem, hkey, k, hkey.trans hk⟩

/-- A tally holds no other integer than the number of its plays. -/
theorem hasLongInteger_tally_of_group (hts : Settlement.group g ss = .ok ts) :
    ∀ t ∈ ts, (Show.tally t).hasLongInteger = Text.isLong t.plays := by
  intro t ht
  have hpartition := Settlement.partitions_of_group hts
  obtain ⟨_, _, _, k, hk⟩ := exists_text_key hg hplain hts t ht
  have hkey : t.key.hasLongInteger = false := by
    rw [hk]
    rfl
  refine Show.hasLongInteger_tally hkey ?_
  -- By schedule the label is its name, and otherwise the key; both are texts.
  by_cases hschedule : g = .schedule
  · obtain ⟨s, hs, hlabel, _⟩ := hpartition.label_schedule hschedule t ht
    have hmem : s ∈ ss := (List.mem_filter.1 (List.mem_of_mem_head? hs)).1
    obtain ⟨name, hname⟩ := (hplain s hmem).schedule
    obtain ⟨i, hi⟩ := (hplain s hmem).scheduleId
    rw [hlabel, hname, hi]
    exact Value.hasLongInteger_orElse rfl rfl
  · rw [hpartition.label_eq hschedule t ht]
    exact hkey

/-- Groups by day can be put in order, since their keys are texts; other groups stay as they are. -/
theorem exists_ordered (hts : Settlement.group g ss = .ok ts) :
    ∃ us, ordered g ts = .ok us ∧ us.Perm ts := by
  cases g with
  | day =>
    obtain ⟨us, hus, hperm, _⟩ := Tally.exists_sorted_eq_ok
      (fun t ht => (exists_text_key hg hplain hts t ht).elim fun _ h => h.2.2)
      (Settlement.partitions_of_group hts).distinct
    exact ⟨us, hus, hperm⟩
  | schedule | lottery | agent | field get | unknown name => exact ⟨ts, rfl, .rfl⟩

/-- The number of plays of a tally is long exactly if that of a group is. -/
theorem exists_isLong_plays_iff (hts : Settlement.group g ss = .ok ts) :
    (∃ t ∈ ts, Text.isLong t.plays = true) ↔
      ∃ s ∈ ss, Text.isLong (Settlement.members g (g.key s.play) ss).length = true := by
  have hpartition := Settlement.partitions_of_group hts
  constructor
  · rintro ⟨t, ht, hlong⟩
    obtain ⟨s, hs, hkey, _⟩ := exists_text_key hg hplain hts t ht
    rw [hpartition.plays_eq t ht, hkey] at hlong
    exact ⟨s, hs, hlong⟩
  · rintro ⟨s, hs, hlong⟩
    obtain ⟨k, hk, _⟩ := (hplain s hs).exists_key hg
    have hself : (g.key s.play == g.key s.play) = true := by
      rw [hk, Value.text_beq_text, beq_self_eq_true]
    -- Every settlement is in the group of its key, whose tally counts the members.
    obtain ⟨t, ht, hkey⟩ := (hpartition.exists_iff (g.key s.play)).2 ⟨s, hs, hself⟩
    refine ⟨t, ht, ?_⟩
    rwa [hpartition.plays_eq t ht, Settlement.members_congr hkey]

/-- The only integers of the answer are the numbers of plays. -/
theorem hasLongInteger_shownSums (hts : Settlement.group g ss = .ok ts) {us : List Tally}
    (hperm : us.Perm ts) (summary : Summary) :
    (shownSums word us summary).hasLongInteger = true ↔
      ∃ s ∈ ss, Text.isLong (Settlement.members g (g.key s.play) ss).length = true := by
  rw [← exists_isLong_plays_iff hg hplain hts]
  simp only [shownSums, Value.hasLongInteger, Value.anyLongField, Value.anyLongInteger_map,
    Show.hasLongInteger_summary, Bool.or_false, Bool.false_or]
  refine exists_congr fun t => ?_
  rw [hperm.mem_iff]
  refine and_congr_right fun ht => ?_
  rw [hasLongInteger_tally_of_group hg hplain hts t ht]

/-- Summing up breaks exactly if a sum or the balance is beyond cents, or the number of plays of a
group is a long integer. -/
theorem breaks_sumUp :
    Breaks (orRefuse .failed (sumUp word g ss)) ↔ SummingFails g ss := by
  have hgroup := Settlement.exists_group_eq_error_iff (g := g) fun s hs => by
    obtain ⟨k, _, hk⟩ := (hplain s hs).exists_key hg
    exact ⟨_, hk⟩
  have hsummarize := Settlement.exists_summarize_eq_error_iff ss
  rw [breaks_orRefuse_failed]
  cases hts : Settlement.group g ss with
  | error f =>
    obtain ⟨s, hs, hbeyond⟩ := hgroup.1 ⟨f, hts⟩
    exact iff_of_true (.inl ⟨f, bind_eq_error.2 (.inl hts)⟩) (.group hs hbeyond)
  | ok ts =>
    obtain ⟨us, hus, hperm⟩ := exists_ordered hg hplain hts
    have hsumUp : sumUp word g ss = (Settlement.summarize ss).map (shownSums word us) := by
      rw [sumUp, hts]
      show (ordered g ts >>= _) = _
      rw [hus]
      cases Settlement.summarize ss <;> rfl
    rw [hsumUp]
    cases hsummary : Settlement.summarize ss with
    | error f =>
      refine iff_of_true (.inl ⟨f, rfl⟩) ?_
      rcases hsummarize.1 ⟨f, hsummary⟩ with hbeyond | hbeyond
      · exact .summary hbeyond
      · exact .balance hbeyond
    | ok summary =>
      -- Groups and summary are there, so only a number of plays is left to be too long.
      have hlong := hasLongInteger_shownSums hg hplain hts hperm summary
      rw [hts] at hgroup
      rw [hsummary] at hsummarize
      constructor
      · rintro (⟨f, hf⟩ | ⟨v, hv, hv'⟩)
        · cases hf
        · obtain rfl := Except.ok.inj hv
          obtain ⟨s, hs, h⟩ := hlong.1 hv'
          exact .plays hs h
      · intro hfails
        cases hfails with
        | group hs h => exact (hgroup.2 ⟨_, hs, h⟩).elim nofun
        | summary h => exact (hsummarize.2 (.inl h)).elim nofun
        | balance h => exact (hsummarize.2 (.inr h)).elim nofun
        | plays hs h => exact .inr ⟨_, rfl, hlong.2 ⟨_, hs, h⟩⟩

end Groups

section Fields

variable {s : Price.Surroundings} {fields : List (String × Value)}

/-- What was settled are plain plays. -/
theorem plain_of_settlementsOf {ss : List Settlement} (h : settlementsOf s fields = .ok ss) :
    ∀ s ∈ ss, s.play.Plain := by
  obtain ⟨prices, _, h⟩ := bind_eq_ok.1 h
  obtain ⟨plays, hplays, h⟩ := bind_eq_ok.1 h
  obtain ⟨results, _, h⟩ := bind_eq_ok.1 h
  obtain ⟨limited, _, h⟩ := bind_eq_ok.1 h
  intro s hs
  obtain ⟨p, hp, hsettled⟩ := (mem_iff_of_mapM_eq_ok (orRefuse_eq_ok.1 h)).1 hs
  rw [Play.play_settleFrom hsettled]
  exact plain_of_playsOf hplays p hp

/-- **Statistics go unanswered exactly if settling fails, or summing up.** -/
theorem breaks_stats {word : String} {g : Grouping} (h : Value.anyLongField fields = false)
    (hs : s.priceVariable = none) (hg : Grouping.ofName? word = some g) :
    Breaks (Answer.stats s word g fields) ↔
      SettlingFails s fields ∨ ∃ ss, settlementsOf s fields = .ok ss ∧ SummingFails g ss := by
  rw [stats_eq, breaks_bind, fails_settlementsOf h hs]
  refine or_congr_right (exists_congr fun ss => and_congr_right fun hss => ?_)
  exact breaks_sumUp hg (plain_of_settlementsOf hss)

end Fields

end Service
end Lottery
