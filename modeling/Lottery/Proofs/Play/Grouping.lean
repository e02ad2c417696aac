/-
# Tallies partition the settlements

Settlements are entered one by one.  After any number of them, each tally is
that of the settlements with its key, in their order, and stands where its key
first came (`Entered`); one more settlement keeps it so (`Entered.enter`), and
hence a whole run does (`entered_foldl`).  Rounding changes the two amounts
only, so

| of a tally | is |
| --- | --- |
| `plays` | how many settlements have its key |
| `collected`, `paid` | the sum of what they have, from the left, in cents |
| `label` | its key, or the schedule of the first of them |

(`Settlement.partitions_of_group`).  The tallies by day are the same in the order
of the days (`Play.daily_eq_ok`); all of it together is `Play.tallies_partition`.

The loop is that of `group_settlements`; `daily_totals` sorts its groups by their
labels.
-/

import Lottery.Play.Grouping
import Lottery.Proofs.Play.Settling
import Lottery.Proofs.Sorting

namespace Lottery

variable {g : Grouping} {s : Settlement} {ss ms : List Settlement} {t u : Tally}
  {ts us : List Tally}

/-! ### The settlements of a group -/

namespace Settlement

/-- The settlements with a key, in their order. -/
def members (g : Grouping) (key : Value) (ss : List Settlement) : List Settlement :=
  ss.filter fun s => key == g.key s.play

/-- How many settlements come before the first one with a key. -/
def firstPlace (g : Grouping) (ss : List Settlement) (key : Value) : Nat :=
  ss.findIdx fun s => key == g.key s.play

/-- A settlement joins the members of its own key and of no other. -/
theorem members_concat (g : Grouping) (key : Value) (ss : List Settlement) (s : Settlement) :
    members g key (ss ++ [s]) =
      members g key ss ++ if key == g.key s.play then [s] else [] := by
  rw [members, List.filter_append, List.filter_cons, List.filter_nil]
  rfl

/-- Equal keys have the same settlements. -/
theorem members_congr {k l : Value} (h : (k == l) = true) : members g k ss = members g l ss := by
  refine List.filter_congr fun s _ => ?_
  rw [Bool.eq_iff_iff]
  exact ⟨fun hk => BEq.trans (BEq.symm h) hk, fun hl => BEq.trans h hl⟩

/-- A key has a first place if some settlement has the key. -/
theorem firstPlace_lt_iff {key : Value} :
    firstPlace g ss key < ss.length ↔ ∃ s ∈ ss, (key == g.key s.play) = true :=
  List.findIdx_lt_length

/-- A key that has come keeps its place. -/
theorem firstPlace_concat {key : Value} (h : firstPlace g ss key < ss.length) (s : Settlement) :
    firstPlace g (ss ++ [s]) key = firstPlace g ss key := by
  rw [firstPlace, List.findIdx_append]
  exact if_pos h

/-- A new key comes last. -/
theorem firstPlace_concat_new {key : Value} (h : ∀ s ∈ ss, (key == g.key s.play) = false)
    (hs : (key == g.key s.play) = true) : firstPlace g (ss ++ [s]) key = ss.length := by
  have hlen : ss.findIdx (fun s => key == g.key s.play) = ss.length :=
    List.findIdx_eq_length_of_false h
  rw [firstPlace, List.findIdx_append, hlen, if_neg (Nat.lt_irrefl _), List.findIdx_cons, hs,
    cond_true, Nat.zero_add]

end Settlement

/-! ### Entering a settlement -/

namespace Tally

open Settlement (members firstPlace members_concat firstPlace_lt_iff firstPlace_concat
  firstPlace_concat_new)

/-- Some settlements added to a tally, one after the other. -/
theorem foldl_add (ms : List Settlement) (t : Tally) :
    ms.foldl add t = ⟨t.key, t.label, (ms.map Settlement.collected).foldl Binary64.add t.collected,
      (ms.map Settlement.pay).foldl Binary64.add t.paid, t.plays + ms.length⟩ := by
  induction ms generalizing t with
  | nil => rfl
  | cons s ms ih =>
    rw [List.foldl_cons, ih, List.length_cons, Nat.add_comm ms.length 1, ← Nat.add_assoc]
    rfl

/-- A settlement whose key no tally has opens a tally, behind all others. -/
theorem enter_of_new (h : ∀ t ∈ ts, (t.key == g.key s.play) = false) :
    enter g s ts = ts ++ [(opening g s).add s] := by
  induction ts with
  | nil => rfl
  | cons t ts ih =>
    rw [enter, h t List.mem_cons_self, ih fun u hu => h u (List.mem_cons_of_mem t hu)]
    rfl

/-- A settlement with a key that has come is added to the one tally of that key. -/
theorem enter_of_known (hts : (ts.map key).Pairwise fun k l => (k == l) = false)
    (h : ∃ t ∈ ts, (t.key == g.key s.play) = true) :
    enter g s ts = ts.map fun t => if t.key == g.key s.play then t.add s else t := by
  -- Entering stops at the first tally with the key, mapping goes on to the end.
  induction ts with
  | nil =>
    obtain ⟨t, ht, _⟩ := h
    exact absurd ht List.not_mem_nil
  | cons t ts ih =>
    obtain ⟨ht, hts⟩ := List.pairwise_cons.1 hts
    rw [enter, List.map_cons]
    by_cases hk : (t.key == g.key s.play) = true
    · -- No other tally has this key, so the others stay.
      have hrest : (ts.map fun t => if t.key == g.key s.play then t.add s else t) = ts := by
        refine (List.map_congr_left fun u hu => ?_).trans (List.map_id' ts)
        have hne : (t.key == u.key) = false := ht u.key (List.mem_map.2 ⟨u, hu, rfl⟩)
        have hu : ¬ (u.key == g.key s.play) = true := by
          intro hu
          rw [BEq.trans hk (BEq.symm hu)] at hne
          cases hne
        rw [if_neg hu]
      rw [if_pos hk, if_pos hk, hrest]
    · obtain ⟨u, hu, hku⟩ := h
      have hmem : u ∈ ts := (List.mem_cons.1 hu).resolve_left fun he => hk (he ▸ hku)
      rw [if_neg hk, if_neg hk, ih hts ⟨u, hmem, hku⟩]

/-- Whether a tally is opened or not, one more play is counted. -/
theorem sum_plays_enter (g : Grouping) (s : Settlement) (ts : List Tally) :
    ((enter g s ts).map plays).sum = (ts.map plays).sum + 1 := by
  induction ts with
  | nil => rfl
  | cons t ts ih =>
    rw [enter]
    -- The settlement is counted in the tally of its key, and there is one.
    split
    · rw [List.map_cons, List.sum_cons, List.map_cons, List.sum_cons, add]
      dsimp only
      omega
    · rw [List.map_cons, List.sum_cons, ih, List.map_cons, List.sum_cons]
      omega

/-- What tallies are after some settlements were entered. -/
structure Entered (g : Grouping) (ss : List Settlement) (ts : List Tally) : Prop where
  distinct : (ts.map key).Pairwise fun k l => (k == l) = false
  ordered : (ts.map key).Pairwise fun k l => firstPlace g ss k < firstPlace g ss l
  complete : ∀ s ∈ ss, ∃ t ∈ ts, (t.key == g.key s.play) = true
  tallied : ∀ t ∈ ts, ∃ s ms, members g t.key ss = s :: ms ∧ t.key = g.key s.play ∧
    t = (s :: ms).foldl add (opening g s)
  sum_plays : (ts.map plays).sum = ss.length

/-- Before any settlement there are no tallies. -/
theorem entered_nil (g : Grouping) : Entered g [] [] where
  distinct := List.Pairwise.nil
  ordered := List.Pairwise.nil
  complete _ hs := absurd hs List.not_mem_nil
  tallied _ ht := absurd ht List.not_mem_nil
  sum_plays := rfl

/-- The key of a tally has come. -/
theorem Entered.firstPlace_lt (h : Entered g ss ts) (ht : t ∈ ts) :
    firstPlace g ss t.key < ss.length := by
  obtain ⟨s, ms, hms, _⟩ := h.tallied t ht
  have hs : s ∈ members g t.key ss := hms ▸ List.mem_cons_self
  exact firstPlace_lt_iff.2 ⟨s, List.mem_filter.1 hs⟩

/-- What is known of the order is so after one more settlement. -/
theorem Entered.ordered_concat (h : Entered g ss ts) (s : Settlement) :
    (ts.map key).Pairwise fun k l => firstPlace g (ss ++ [s]) k < firstPlace g (ss ++ [s]) l := by
  refine h.ordered.imp_of_mem fun {k l} hk hl hlt => ?_
  obtain ⟨t, ht, rfl⟩ := List.mem_map.1 hk
  obtain ⟨u, hu, rfl⟩ := List.mem_map.1 hl
  rwa [firstPlace_concat (h.firstPlace_lt ht), firstPlace_concat (h.firstPlace_lt hu)]

section Step

variable (h : Entered g ss ts)
include h

/-- A settlement of a known key leaves the tallies in order and adds to one of them. -/
theorem Entered.enter_known (hs : ∃ t ∈ ts, (t.key == g.key s.play) = true) :
    Entered g (ss ++ [s]) (enter g s ts) := by
  have henter := enter_of_known h.distinct hs
  -- Adding to a tally leaves its key, so order and distinctness carry over.
  have hkeys : (enter g s ts).map key = ts.map key := by
    rw [henter, List.map_map]
    refine List.map_congr_left fun t _ => ?_
    rw [Function.comp_apply]
    split <;> rfl
  refine ⟨hkeys ▸ h.distinct, hkeys ▸ h.ordered_concat s, ?_, ?_, ?_⟩
  · intro r hr
    obtain ⟨t, ht, hk⟩ : ∃ t ∈ ts, (t.key == g.key r.play) = true := by
      rcases List.mem_append.1 hr with hr | hr
      · exact h.complete r hr
      · rwa [List.mem_singleton.1 hr]
    obtain ⟨u, hu, hku⟩ : ∃ u ∈ enter g s ts, u.key = t.key :=
      List.mem_map.1 (hkeys ▸ List.mem_map.2 ⟨t, ht, rfl⟩)
    exact ⟨u, hu, by rwa [hku]⟩
  · intro u hu
    rw [henter] at hu
    obtain ⟨t, ht, rfl⟩ := List.mem_map.1 hu
    obtain ⟨r, ms, hms, hkey, htally⟩ := h.tallied t ht
    -- The tally of the key gains a member, the others keep theirs.
    by_cases hk : (t.key == g.key s.play) = true
    · refine ⟨r, ms ++ [s], ?_, ?_, ?_⟩
      · rw [if_pos hk, add, members_concat, hms, if_pos hk]
        rfl
      · rw [if_pos hk]
        exact hkey
      · rw [if_pos hk, ← List.cons_append, List.foldl_concat, ← htally]
    · refine ⟨r, ms, ?_, ?_, ?_⟩
      · rw [if_neg hk, members_concat, hms, if_neg hk, List.append_nil]
      · rw [if_neg hk]
        exact hkey
      · rw [if_neg hk]
        exact htally
  · rw [sum_plays_enter, h.sum_plays, List.length_append, List.length_singleton]

/-- A settlement of a new key has a tally of its own, which comes last. -/
theorem Entered.enter_new (hself : (g.key s.play == g.key s.play) = true)
    (hs : ∀ t ∈ ts, (t.key == g.key s.play) = false) :
    Entered g (ss ++ [s]) (enter g s ts) := by
  have henter := enter_of_new hs
  -- All earlier settlements have a tally, and none has this key: so it comes last.
  have hnone : ∀ r ∈ ss, (g.key s.play == g.key r.play) = false := by
    intro r hr
    rw [Bool.eq_false_iff]
    intro he
    obtain ⟨t, ht, hk⟩ := h.complete r hr
    have hno := hs t ht
    rw [BEq.trans hk (BEq.symm he)] at hno
    cases hno
  have hkeys : (enter g s ts).map key = ts.map key ++ [g.key s.play] := by
    rw [henter, List.map_append]
    rfl
  have hlast : firstPlace g (ss ++ [s]) (g.key s.play) = ss.length :=
    firstPlace_concat_new hnone hself
  refine ⟨?_, ?_, ?_, ?_, ?_⟩
  · rw [hkeys, List.pairwise_append]
    refine ⟨h.distinct, List.pairwise_singleton _ _, fun k hk l hl => ?_⟩
    obtain ⟨t, ht, rfl⟩ := List.mem_map.1 hk
    rw [List.mem_singleton.1 hl]
    exact hs t ht
  · rw [hkeys, List.pairwise_append]
    refine ⟨h.ordered_concat s, List.pairwise_singleton _ _, fun k hk l hl => ?_⟩
    obtain ⟨t, ht, rfl⟩ := List.mem_map.1 hk
    rw [List.mem_singleton.1 hl, hlast, firstPlace_concat (h.firstPlace_lt ht)]
    exact h.firstPlace_lt ht
  · intro r hr
    rw [henter]
    rcases List.mem_append.1 hr with hr | hr
    · obtain ⟨t, ht, hk⟩ := h.complete r hr
      exact ⟨t, List.mem_append_left _ ht, hk⟩
    · rw [List.mem_singleton.1 hr]
      exact ⟨(opening g s).add s, List.mem_append_right _ List.mem_cons_self, hself⟩
  · intro u hu
    rw [henter] at hu
    rcases List.mem_append.1 hu with hu | hu
    · obtain ⟨r, ms, hms, hkey, htally⟩ := h.tallied u hu
      refine ⟨r, ms, ?_, hkey, htally⟩
      rw [members_concat, hms, hs u hu, if_neg Bool.false_ne_true, List.append_nil]
    · obtain rfl := List.mem_singleton.1 hu
      -- A new tally has the new settlement for its one member.
      have hmembers : members g (g.key s.play) ss = [] := by
        rw [members, List.filter_eq_nil_iff]
        exact fun r hr => Bool.eq_false_iff.1 (hnone r hr)
      refine ⟨s, [], ?_, rfl, rfl⟩
      show members g (g.key s.play) (ss ++ [s]) = [s]
      rw [members_concat, hmembers, if_pos hself, List.nil_append]
  · rw [sum_plays_enter, h.sum_plays, List.length_append, List.length_singleton]

/-- **One more settlement keeps the tallies right.** -/
theorem Entered.enter (hself : (g.key s.play == g.key s.play) = true) :
    Entered g (ss ++ [s]) (enter g s ts) := by
  by_cases hs : ∃ t ∈ ts, (t.key == g.key s.play) = true
  · exact h.enter_known hs
  · refine h.enter_new hself fun t ht => Bool.eq_false_iff.2 fun hk => hs ⟨t, ht, hk⟩

/-- The same of some more settlements. -/
theorem Entered.foldl (hself : ∀ s ∈ ms, (g.key s.play == g.key s.play) = true) :
    Entered g (ss ++ ms) (ms.foldl (fun ts s => Tally.enter g s ts) ts) := by
  induction ms generalizing ss ts with
  | nil => rwa [List.append_nil]
  | cons s ms ih =>
    have hrest := ih (h.enter (hself s List.mem_cons_self))
      fun r hr => hself r (List.mem_cons_of_mem s hr)
    rwa [List.append_assoc, List.singleton_append] at hrest

end Step

/-- **A run of settlements is tallied right.** -/
theorem entered_foldl (h : ∀ s ∈ ss, (g.key s.play == g.key s.play) = true) :
    Entered g ss (ss.foldl (fun ts s => Tally.enter g s ts) []) :=
  (entered_nil g).foldl h

/-- Rounding changes the two amounts only. -/
theorem rounded_eq_ok (h : t.rounded = .ok u) :
    u.key = t.key ∧ u.label = t.label ∧ u.plays = t.plays ∧
      Money.ofDouble t.collected = .ok u.collected ∧ Money.ofDouble t.paid = .ok u.paid := by
  obtain ⟨collected, hc, h⟩ := bind_eq_ok.1 h
  obtain ⟨paid, hp, h⟩ := bind_eq_ok.1 h
  obtain rfl := Except.ok.inj h
  exact ⟨rfl, rfl, rfl, hc, hp⟩

/-- A rounded tally is that of the settlements with its key, with its amounts in cents. -/
theorem Entered.exists_members_of_rounded (h : Entered g ss us) (hu : u ∈ us)
    (hr : u.rounded = .ok t) : ∃ s ms, members g t.key ss = s :: ms ∧ t.key = g.key s.play ∧
      t.label = g.label s.play ∧ t.plays = (s :: ms).length ∧
        Money.ofDouble (.sum ((s :: ms).map Settlement.collected)) = .ok t.collected ∧
        Money.ofDouble (.sum ((s :: ms).map Settlement.pay)) = .ok t.paid := by
  obtain ⟨hkey, hlabel, hcount, hcollected, hpaid⟩ := rounded_eq_ok hr
  obtain ⟨s, ms, hms, hks, htally⟩ := h.tallied u hu
  -- A tally is what its members add up to, rounded at the end.
  rw [foldl_add] at htally
  refine ⟨s, ms, by rw [hkey, hms], by rw [hkey, hks], ?_, ?_, ?_, ?_⟩
  · rw [hlabel, htally]
    rfl
  · rw [hcount, htally]
    exact Nat.zero_add _
  · rw [← hcollected, htally]
    rfl
  · rw [← hpaid, htally]
    rfl

end Tally

/-! ### Grouping -/

namespace Settlement

/-- Tallies that partition some settlements: each key has one tally, in the order in which the
keys first came, and it is that of the settlements with this key. -/
structure Partitions (g : Grouping) (ss : List Settlement) (ts : List Tally) : Prop where
  distinct : (ts.map Tally.key).Pairwise fun k l => (k == l) = false
  ordered : (ts.map Tally.key).Pairwise fun k l => firstPlace g ss k < firstPlace g ss l
  exists_iff : ∀ k, (∃ t ∈ ts, (t.key == k) = true) ↔ ∃ s ∈ ss, (g.key s.play == k) = true
  key_eq : ∀ t ∈ ts, ∃ s, (members g t.key ss).head? = some s ∧ t.key = g.key s.play
  plays_eq : ∀ t ∈ ts, t.plays = (members g t.key ss).length
  sum_plays : (ts.map Tally.plays).sum = ss.length
  collected_eq : ∀ t ∈ ts,
    Money.ofDouble (.sum ((members g t.key ss).map Settlement.collected)) = .ok t.collected
  paid_eq : ∀ t ∈ ts, Money.ofDouble (.sum ((members g t.key ss).map Settlement.pay)) = .ok t.paid
  label_eq : g ≠ .schedule → ∀ t ∈ ts, t.label = t.key
  /-- A schedule without a name is labelled with its id. -/
  label_schedule : g = .schedule → ∀ t ∈ ts, ∃ s, (members g t.key ss).head? = some s ∧
    t.label = s.play.schedule.orElse s.play.scheduleId ∧
      ∀ name, s.play.schedule = .text name →
        t.label = if name = "" then s.play.scheduleId else .text name

/-- A key that can be looked up is equal to itself. -/
theorem beq_self_of_asKey {p : Play} {v : Value} (h : g.asKey p = .ok v) :
    (g.key p == g.key p) = true := by
  cases g with
  | unknown name => cases h
  | day | schedule | lottery | agent | field get => exact (Value.asKey_eq_ok_iff.1 h).2

/-- Settlements that are grouped have keys that can be looked up, and are entered one by one. -/
theorem foldlM_enter_eq_ok
    (h : (ss.foldlM (fun tallies s => do
      let _ ← g.asKey s.play
      .ok (Tally.enter g s tallies)) ts : Except Fault (List Tally)) = .ok us) :
    (∀ s ∈ ss, (g.key s.play == g.key s.play) = true) ∧
      us = ss.foldl (fun ts s => Tally.enter g s ts) ts := by
  -- The fold fails on the first key that cannot be looked up, so all of them can.
  induction ss generalizing ts with
  | nil =>
    obtain rfl := Except.ok.inj h
    exact ⟨fun s hs => absurd hs List.not_mem_nil, rfl⟩
  | cons s ss ih =>
    rw [List.foldlM_cons] at h
    obtain ⟨vs, hvs, h⟩ := bind_eq_ok.1 h
    obtain ⟨v, hv, hvs⟩ := bind_eq_ok.1 hvs
    obtain rfl := Except.ok.inj hvs
    obtain ⟨hself, hus⟩ := ih h
    exact ⟨List.forall_mem_cons.2 ⟨beq_self_of_asKey hv, hself⟩, hus⟩

/-- A schedule without a name is labelled with its id. -/
theorem label_of_text {p : Play} {name : String} (h : p.schedule = .text name) :
    p.schedule.orElse p.scheduleId = if name = "" then p.scheduleId else .text name := by
  rw [h, Value.orElse, Value.isPresent]
  by_cases hname : name = "" <;> simp [hname]

/-- **Grouping partitions the settlements.** -/
theorem partitions_of_group (h : group g ss = .ok ts) : Partitions g ss ts := by
  obtain ⟨us, hus, h⟩ := bind_eq_ok.1 h
  obtain ⟨hself, rfl⟩ := foldlM_enter_eq_ok hus
  have hentered := Tally.entered_foldl hself
  -- What is entered is known by its invariant, and rounding is all that is left to be seen.
  generalize ss.foldl (fun ts s => Tally.enter g s ts) [] = us at h hentered
  have hkeys : ts.map Tally.key = us.map Tally.key :=
    map_eq_map_of_mapM_eq_ok h fun _ _ hr => (Tally.rounded_eq_ok hr).1
  have hplays : ts.map Tally.plays = us.map Tally.plays :=
    map_eq_map_of_mapM_eq_ok h fun _ _ hr => (Tally.rounded_eq_ok hr).2.2.1
  -- Every tally of the answer is the rounding of one that was entered.
  have htally : ∀ t ∈ ts, ∃ s ms, members g t.key ss = s :: ms ∧ t.key = g.key s.play ∧
      t.label = g.label s.play ∧ t.plays = (s :: ms).length ∧
        Money.ofDouble (.sum ((s :: ms).map Settlement.collected)) = .ok t.collected ∧
        Money.ofDouble (.sum ((s :: ms).map Settlement.pay)) = .ok t.paid := by
    intro t ht
    obtain ⟨u, hu, hr⟩ := (mem_iff_of_mapM_eq_ok h).1 ht
    exact hentered.exists_members_of_rounded hu hr
  refine ⟨hkeys ▸ hentered.distinct, hkeys ▸ hentered.ordered, ?_, ?_, ?_,
    hplays ▸ hentered.sum_plays, ?_, ?_, ?_, ?_⟩
  · intro k
    constructor
    · rintro ⟨t, ht, hk⟩
      obtain ⟨s, ms, hms, hkey, _⟩ := htally t ht
      have hs : s ∈ members g t.key ss := hms ▸ List.mem_cons_self
      exact ⟨s, (List.mem_filter.1 hs).1, hkey ▸ hk⟩
    · rintro ⟨s, hs, hk⟩
      obtain ⟨u, hu, hku⟩ := hentered.complete s hs
      obtain ⟨t, ht, htk⟩ := List.mem_map.1 (hkeys ▸ List.mem_map.2 ⟨u, hu, rfl⟩)
      exact ⟨t, ht, BEq.trans (htk ▸ hku) hk⟩
  · intro t ht
    obtain ⟨s, ms, hms, hkey, _⟩ := htally t ht
    exact ⟨s, by rw [hms]; rfl, hkey⟩
  · intro t ht
    obtain ⟨s, ms, hms, _, _, hcount, _⟩ := htally t ht
    rw [hms, hcount]
  · intro t ht
    obtain ⟨s, ms, hms, _, _, _, hcollected, _⟩ := htally t ht
    rw [hms, hcollected]
  · intro t ht
    obtain ⟨s, ms, hms, _, _, _, _, hpaid⟩ := htally t ht
    rw [hms, hpaid]
  · intro hg t ht
    obtain ⟨s, ms, _, hkey, hlabel, _⟩ := htally t ht
    rw [hlabel, hkey]
    cases g with
    | schedule => exact absurd rfl hg
    | day | lottery | agent | field _ | unknown _ => rfl
  · rintro rfl t ht
    obtain ⟨s, ms, hms, _, hlabel, _⟩ := htally t ht
    exact ⟨s, by rw [hms]; rfl, hlabel, fun name hname => hlabel.trans (label_of_text hname)⟩

end Settlement

/-! ### The days in order -/

namespace Tally

/-- **Tallies of different texts can be sorted,** and then their keys increase strictly. -/
theorem exists_sorted_eq_ok (htext : ∀ t ∈ ts, ∃ d, t.key = .text d)
    (hdistinct : (ts.map key).Pairwise fun k l => (k == l) = false) :
    ∃ us, sorted ts = .ok us ∧ us.Perm ts ∧
      us.Pairwise fun t u => ∃ d e, t.key = .text d ∧ u.key = .text e ∧ d < e := by
  -- Days are texts, so tallies can be compared by them and sorting does not fail.
  let name (t : Tally) : String := t.key.text?.getD ""
  have hname : ∀ t ∈ ts, t.key = .text (name t) := by
    intro t ht
    obtain ⟨d, hd⟩ := htext t ht
    show _ = Value.text (t.key.text?.getD "")
    rw [hd]
    rfl
  have hsort : sorted ts = .ok (Text.sortBy (fun t u => Text.before (name t) (name u)) ts) := by
    refine Sorting.sort_eq_ok fun t ht u hu => ?_
    rw [hname t ht, hname u hu, Value.before]
  have hperm := Sorting.perm_of_sort hsort
  have hle : (Text.sortBy (fun t u => Text.before (name t) (name u)) ts).Pairwise
      fun t u => name t ≤ name u := by
    have hlt : ∀ t u, Text.before (name t) (name u) = true ↔ name t < name u :=
      fun _ _ => Text.before_iff_lt
    exact Text.pairwise_sortBy hlt ts
  -- Keys are distinct whatever the order, so sorted by them means strictly.
  have hne : (Text.sortBy (fun t u => Text.before (name t) (name u)) ts).Pairwise
      fun t u => (t.key == u.key) = false := by
    refine (hperm.pairwise_iff fun {t u} h => ?_).2 (List.pairwise_map.1 hdistinct)
    rwa [BEq.comm]
  refine ⟨_, hsort, hperm, (hle.and hne).imp_of_mem fun {t u} ht hu h => ?_⟩
  have hkt := hname t (hperm.mem_iff.1 ht)
  have hku := hname u (hperm.mem_iff.1 hu)
  refine ⟨name t, name u, hkt, hku, lt_of_le_of_ne h.1 fun he => ?_⟩
  have hbeq := h.2
  rw [hkt, hku, he, Value.text_beq_text, beq_self_eq_true] at hbeq
  cases hbeq

end Tally

namespace Play

variable {plays : List Play} {results : Results} {limited : LimitedNumbers}
  {prices : Option Price.Table}

/-- Settling a play keeps the play. -/
theorem play_settleFrom {p : Play} (h : settleFrom results limited prices p = .ok s) :
    s.play = p := by
  obtain ⟨d, _, h⟩ := bind_eq_ok.1 h
  obtain ⟨numbers, _, h⟩ := bind_eq_ok.1 h
  cases d with
  | none => exact (settle_none_eq_ok h).2.1
  | some d => exact (settle_some_eq_ok h).2.1

/-- **The tallies by day are those of the grouping, in the order of the days.** -/
theorem daily_eq_ok (hday : ∀ p ∈ plays, ∃ d, p.day = .text d)
    (h : aggregate .day plays results limited prices = .ok ts) :
    ∃ us, daily plays results limited prices = .ok us ∧ us.Perm ts ∧
      us.Pairwise fun t u => ∃ d e, t.key = .text d ∧ u.key = .text e ∧ d < e := by
  obtain ⟨ss, hss, hgroup⟩ := bind_eq_ok.1 h
  have hpartition := Settlement.partitions_of_group hgroup
  -- The key of a tally is the day of one of the plays.
  have htext : ∀ t ∈ ts, ∃ d, t.key = .text d := by
    intro t ht
    obtain ⟨s, hs, hkey⟩ := hpartition.key_eq t ht
    have hmem : s ∈ ss := (List.mem_filter.1 (List.mem_of_mem_head? hs)).1
    obtain ⟨p, hp, hsettled⟩ := (mem_iff_of_mapM_eq_ok hss).1 hmem
    obtain ⟨d, hd⟩ := hday p hp
    refine ⟨d, hkey.trans ?_⟩
    rw [play_settleFrom hsettled]
    exact hd
  obtain ⟨us, hus, hperm, hsorted⟩ := Tally.exists_sorted_eq_ok htext hpartition.distinct
  exact ⟨us, bind_eq_ok.2 ⟨ts, h, hus⟩, hperm, hsorted⟩

/-- **Tallies partition the settlements, and those by day stand in the order of the days.**
Whenever settlements are grouped, each key that one of them has gets one tally, in the order in
which the keys first came, and the tally counts and adds up the settlements with this key, so
that each settlement is counted once.  The tallies by day of plays whose days are texts are the
same, put in order; they fail as the grouping does, and only then. -/
theorem tallies_partition :
    (∀ (g : Grouping) (ss : List Settlement) (ts : List Tally),
      Settlement.group g ss = .ok ts → Settlement.Partitions g ss ts) ∧
    ∀ (plays : List Play) (results : Results) (limited : LimitedNumbers)
      (prices : Option Price.Table), (∀ p ∈ plays, ∃ d, p.day = .text d) →
        (∀ f, aggregate .day plays results limited prices = .error f →
          daily plays results limited prices = .error f) ∧
        ∀ ts, aggregate .day plays results limited prices = .ok ts →
          ∃ us, daily plays results limited prices = .ok us ∧ us.Perm ts ∧
            us.Pairwise fun t u => ∃ d e, t.key = .text d ∧ u.key = .text e ∧ d < e := by
  refine ⟨fun g ss ts h => Settlement.partitions_of_group h,
    fun plays results limited prices hday => ⟨fun f h => ?_, fun ts h => daily_eq_ok hday h⟩⟩
  rw [daily, h]
  rfl

/-- A play that stakes 2 on one number. -/
def staking2 (schedule name day : String) : Play :=
  ⟨.text "fijo", .text "12", .int 2, .text schedule, .text day, .null, .text "", .text name,
    .text "", .text ""⟩

/-- Three plays, two of them in a schedule whose name only the later one has. -/
def interleaved : List Play :=
  [staking2 "s1" "" "d2", staking2 "s2" "noche" "d1", staking2 "s1" "tarde" "d2"]

/-- What is seen of tallies whose keys and labels are texts. -/
def glance (ts : List Tally) : List (Option String × Option String × Binary64 × Nat) :=
  ts.map fun t => (t.key.text?, t.label.text?, t.collected, t.plays)

/-- The three plays by schedule, by day, and by day in order. -/
theorem tallies_partition_interleaved :
    ∃ ss ts us vs, settleAll interleaved [] [] (some .reference) = .ok ss ∧
      Settlement.group .schedule ss = .ok ts ∧
      glance ts = [(some "s1", some "s1", .ofInt 4, 2), (some "s2", some "noche", .ofInt 2, 1)] ∧
      Settlement.Partitions .schedule ss ts ∧
      (∀ p ∈ interleaved, ∃ d, p.day = .text d) ∧
      aggregate .day interleaved [] [] (some .reference) = .ok us ∧
      glance us = [(some "d2", some "d2", .ofInt 4, 2), (some "d1", some "d1", .ofInt 2, 1)] ∧
      daily interleaved [] [] (some .reference) = .ok vs ∧
      vs.Perm us ∧ vs.Pairwise fun t u => ∃ d e, t.key = .text d ∧ u.key = .text e ∧ d < e := by
  -- Three plays of two schedules on two days, in such an order that each group is interrupted.
  obtain ⟨ts, hts, hview⟩ : ∃ ts, aggregate .schedule interleaved [] [] (some .reference) =
      .ok ts ∧ glance ts =
        [(some "s1", some "s1", .ofInt 4, 2), (some "s2", some "noche", .ofInt 2, 1)] := by
    decide +kernel
  obtain ⟨us, hus, hdays⟩ : ∃ us, aggregate .day interleaved [] [] (some .reference) = .ok us ∧
      glance us = [(some "d2", some "d2", .ofInt 4, 2), (some "d1", some "d1", .ofInt 2, 1)] := by
    decide +kernel
  have hday : ∀ p ∈ interleaved, ∃ d, p.day = .text d := by
    simp [interleaved, staking2]
  obtain ⟨ss, hss, hgroup⟩ := bind_eq_ok.1 hts
  obtain ⟨vs, hvs, hperm, hsorted⟩ := (tallies_partition.2 _ [] [] _ hday).2 us hus
  exact ⟨ss, ts, us, vs, hss, hgroup, hview, tallies_partition.1 _ ss ts hgroup, hday, hus, hdays,
    hvs, hperm, hsorted⟩

end Play
end Lottery
