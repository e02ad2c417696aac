/-
# How a wager is judged

Where no violation is found, no attempt exceeds its limit
(`violation?_eq_none_of_mem`).  A wager makes one attempt for each spelling of a
risk and each schedule, so a wager with one spelling is judged by all that it
stakes on the risk (`lt_eq_false_of_violations_eq_nil`).

An attempt is one round of the innermost loop of `check_instruction_limits`, and
`Attempt.Fits` its comparison the other way round.
-/

import Lottery.Proofs.Exposure.Booking

namespace Lottery
namespace Exposure

variable {ws : List Wager} {S : List String} {l : Limits} {U : Amounts} {r : Risk}
  {x : Binary64}

/-- Equal risks have the same limit. -/
theorem effective?_congr {t : PlayType} {s : Risk} (h : (r == s) = true) :
    l.effective? t r = l.effective? t s := by
  rw [Limits.effective?, Limits.effective?, Entries.lookup_congr h]

/-- Without violations no attempt is one. -/
theorem violation?_eq_none_of_mem {a : Attempt} (h : violations ws S l U = .ok [])
    (ha : a ∈ ws.flatMap (Attempt.ofWager S)) : a.violation? l U = .ok none := by
  obtain ⟨found, hfound, h⟩ := bind_eq_ok.1 h
  have hnil : found.filterMap id = [] := Except.ok.inj h
  obtain ⟨o, ho, hv⟩ := exists_of_mapM_eq_ok hfound a ha
  have hnone : o = none := List.filterMap_eq_nil_iff.1 hnil o ho
  rw [hv, hnone]

/-- A stake that can be added to what is used, and then does not exceed a limit. -/
def Attempt.Fits (U : Amounts) (a : Attempt) (x : Binary64) : Prop :=
  (Binary64.ofInt a.stake).isFinite = true ∧
    x.lt ((U.get a.risk).add (.ofInt a.stake)) = false

/-- Under a limit an attempt is no violation exactly if it fits. -/
theorem violation?_eq_none_iff {a : Attempt} (h : l.effective? a.playType a.risk = some x) :
    a.violation? l U = .ok none ↔ a.Fits U x := by
  unfold Attempt.violation?
  rw [h]
  dsimp only
  rw [bind_eq_ok]
  simp only [Value.doubleOfInt_eq_ok_iff, Except.ok.injEq, ite_eq_right_iff, reduceCtorEq,
    imp_false, Bool.not_eq_true]
  constructor
  · rintro ⟨_, ⟨hfinite, rfl⟩, hlt⟩
    exact ⟨hfinite, hlt⟩
  · exact fun ⟨hfinite, hlt⟩ => ⟨_, ⟨hfinite, rfl⟩, hlt⟩

/-- An attempt cannot be judged exactly if it is under a limit and its stake is beyond the doubles.
-/
theorem violation?_eq_error_iff {a : Attempt} {f : Fault} : a.violation? l U = .error f ↔
    f = .beyondDoubles ∧ (Binary64.ofInt a.stake).isFinite = false ∧
      ∃ x, l.effective? a.playType a.risk = some x := by
  unfold Attempt.violation?
  cases l.effective? a.playType a.risk with
  | none => simp
  | some x =>
    dsimp only
    rw [bind_eq_error, Value.doubleOfInt_eq_error_iff]
    simp [and_comm]

/-- **There is no verdict exactly if some attempt cannot be judged.** -/
theorem violations_eq_error_iff {f : Fault} : violations ws S l U = .error f ↔
    f = .beyondDoubles ∧ ∃ a ∈ ws.flatMap (Attempt.ofWager S),
      (Binary64.ofInt a.stake).isFinite = false ∧ ∃ x, l.effective? a.playType a.risk = some x := by
  have herror : violations ws S l U = .error f ↔
      (ws.flatMap (Attempt.ofWager S)).mapM (Attempt.violation? l U) = .error f := by
    rw [violations, bind_eq_error]
    simp
  rw [herror]
  constructor
  · intro h
    obtain ⟨a, ha, hf⟩ := exists_of_mapM_eq_error h
    obtain ⟨rfl, hbeyond, hx⟩ := violation?_eq_error_iff.1 hf
    exact ⟨rfl, a, ha, hbeyond, hx⟩
  · rintro ⟨rfl, a, ha, hbeyond, hx⟩
    -- A stake beyond the doubles fails on its own, and no other fault can come before it.
    cases hm : (ws.flatMap (Attempt.ofWager S)).mapM (Attempt.violation? l U) with
    | error e =>
      obtain ⟨b, _, hb⟩ := exists_of_mapM_eq_error hm
      rw [(violation?_eq_error_iff.1 hb).1]
    | ok found =>
      obtain ⟨o, _, ho⟩ := exists_of_mapM_eq_ok hm a ha
      rw [violation?_eq_error_iff.2 ⟨rfl, hbeyond, hx⟩] at ho
      cases ho

/-- What is reported is an attempt that is judged to be a violation. -/
theorem mem_violations_iff {vs : List Violation} (h : violations ws S l U = .ok vs)
    {v : Violation} :
    v ∈ vs ↔ ∃ a ∈ ws.flatMap (Attempt.ofWager S), a.violation? l U = .ok (some v) := by
  -- The attempts without a violation are dropped from what was found.
  obtain ⟨found, hfound, h⟩ := bind_eq_ok.1 h
  obtain rfl := Except.ok.inj h
  rw [List.mem_filterMap]
  constructor
  · rintro ⟨o, ho, rfl⟩
    exact (mem_iff_of_mapM_eq_ok hfound).1 ho
  · rintro ⟨a, ha, hv⟩
    exact ⟨some v, (mem_iff_of_mapM_eq_ok hfound).2 ⟨a, ha, hv⟩, rfl⟩

/-- A stake that is reported is a double. -/
theorem isFinite_of_mem_violations {vs : List Violation} (h : violations ws S l U = .ok vs) :
    ∀ v ∈ vs, (Binary64.ofInt v.attempt).isFinite = true := by
  intro v hv
  obtain ⟨a, _, ha⟩ := (mem_violations_iff h).1 hv
  unfold Attempt.violation? at ha
  split at ha
  · cases ha
  · obtain ⟨y, hy, ha⟩ := bind_eq_ok.1 ha
    obtain ⟨_, hv⟩ := Option.ite_none_right_eq_some.1 (Except.ok.inj ha)
    obtain rfl := Option.some.inj hv
    exact (Value.doubleOfInt_eq_ok_iff.1 hy).1

/-- A wager that spells a risk in no more than one way. -/
def Risk.SpelledOnce (r : Risk) (w : Wager) : Prop :=
  ∀ m ∈ w.numbers, ∀ n ∈ w.numbers, (r == ofNumber r.schedule w.playType m) = true →
    (r == ofNumber r.schedule w.playType n) = true → m = n

/-- The numbers of a wager are looked at one by one. -/
instance Risk.instDecidableSpelledOnce (r : Risk) (w : Wager) : Decidable (r.SpelledOnce w) :=
  inferInstanceAs (Decidable (∀ m ∈ w.numbers, ∀ n ∈ w.numbers,
    (r == ofNumber r.schedule w.playType m) = true →
      (r == ofNumber r.schedule w.playType n) = true → m = n))

/-- Where all numbers of a risk are spelled alike, its repeats are those of one spelling. -/
theorem Risk.SpelledOnce.count_eq {w : Wager} {n : String} (h : r.SpelledOnce w)
    (hn : n ∈ w.numbers) (hr : (r == ofNumber r.schedule w.playType n) = true) :
    w.numbers.count n = r.times w := by
  rw [Risk.times, List.count, List.countP_congr]
  intro m hm
  rw [beq_iff_eq]
  constructor
  · rintro rfl
    exact hr
  · exact fun hrm => h m hm n hn hrm hr

/-- That is so where only one number is of the risk. -/
theorem Risk.spelledOnce_of_times_eq_one {w : Wager} (h : r.times w = 1) : r.SpelledOnce w := by
  intro m hm n hn hrm hrn
  rw [Risk.times, List.countP_eq_length_filter, List.length_eq_one_iff] at h
  obtain ⟨a, ha⟩ := h
  have heq : ∀ n ∈ w.numbers, (r == ofNumber r.schedule w.playType n) = true → n = a := by
    intro n hn hrn
    rw [← List.mem_singleton, ← ha]
    exact List.mem_filter.2 ⟨hn, hrn⟩
  rw [heq m hm hrm, heq n hn hrn]

/-- **Each wager is judged by all it stakes on a risk,** added at once to what was staked
before. -/
theorem lt_eq_false_of_violations_eq_nil {w : Wager} (h : violations ws S l U = .ok [])
    (hw : w ∈ ws) (hS : r.schedule ∈ S) (hr : r.times w ≠ 0) (hone : r.SpelledOnce w)
    (hx : l.effective? w.playType r = some x) :
    x.lt ((U.get r).add (Binary64.ofInt ↑(w.each * r.times w))) = false := by
  obtain ⟨n, hn, hrn⟩ := List.countP_pos_iff.1 (Nat.pos_of_ne_zero hr)
  -- The wager has one spelling of the risk, and makes one attempt on it with all its stakes.
  let a : Attempt := ⟨w.playType, n, r.schedule, w.each * w.numbers.count n⟩
  have ha : a ∈ ws.flatMap (Attempt.ofWager S) := by
    refine List.mem_flatMap.2 ⟨w, hw, List.mem_flatMap.2 ⟨n, List.mem_eraseDups.2 hn, ?_⟩⟩
    exact List.mem_map.2 ⟨r.schedule, hS, rfl⟩
  have hrisk : (r == a.risk) = true := hrn
  have hxa : l.effective? a.playType a.risk = some x := by
    rw [← effective?_congr hrisk]
    exact hx
  rw [← hone.count_eq hn hrn, Amounts.get_congr hrisk]
  exact ((violation?_eq_none_iff hxa).1 (violation?_eq_none_of_mem h ha)).2

end Exposure
end Lottery
