/-
# What a play on parles uses up does not depend on their spelling

Both spellings of a parle are one risk, so a play on parles stakes its amount on
their canonical spellings (`stakesOf_parles`).  As every stake is the same, what
it uses up of a risk depends on how often the parle is among its numbers, and
plays on the same parles use up the same (`usage_of_sameParles`).
-/

import Lottery.Proofs.Exposure.Usage
import Lottery.Proofs.Spelling
import Mathlib.Data.List.Count

namespace Lottery
namespace Exposure

variable {p q : Play} {ns ms : List String}

/-- Two usages with the same amount, or none, for each risk; or the same fault. -/
inductive SameUsage : Except Fault Amounts → Except Fault Amounts → Prop
  | fault (f : Fault) : SameUsage (.error f) (.error f)
  | amounts {a a' : Amounts} (h : ∀ r, a.lookup r = a'.lookup r) : SameUsage (.ok a) (.ok a')

/-- The schedule and the stake of a play. -/
def termsOf (p : Play) : Except Fault (String × Binary64) := do
  let schedule ← p.scheduleId.written
  let stake ← p.amount.amount
  .ok (schedule, stake)

/-- The risk of a parle in a schedule, by its canonical spelling. -/
def Risk.ofParle (schedule canonical : String) : Risk :=
  ⟨schedule, .text PlayType.parle.name, .text canonical⟩

/-- A parle is kept under its canonical spelling, whatever the schedule is. -/
theorem Risk.of_parle (schedule : Value) (n : String) :
    Risk.of schedule (.text PlayType.parle.name) (.text n) =
      schedule.written.map fun s => ofParle s (Parle.canonical n) :=
  rfl

/-- Both spellings of a parle are one risk. -/
theorem Risk.of_swapped (schedule : Value) (n : String) :
    Risk.of schedule (.text PlayType.parle.name) (.text (Parle.swapped n)) =
      Risk.of schedule (.text PlayType.parle.name) (.text n) := by
  rw [of_parle, of_parle, Parle.canonical_swapped]

/-- So the stake of a play on a parle does not depend on the spelling. -/
theorem stakeOn_parle (hp : p.playType = .text PlayType.parle.name) (n : String) :
    stakeOn p n = (termsOf p).map fun t => (Risk.ofParle t.1 (Parle.canonical n), t.2) := by
  rw [stakeOn, hp, Risk.of_parle, termsOf]
  cases p.scheduleId.written with
  | error f => rfl
  | ok s =>
    show (p.amount.amount >>= _) = (p.amount.amount >>= _).map _
    cases p.amount.amount <;> rfl

/-- **A play on parles stakes its amount on their canonical spellings.** -/
theorem stakesOf_parles (hp : p.playType = .text PlayType.parle.name)
    (hns : Numbers.ofValue p.numbers = .ok ns) (hne : ns ≠ []) :
    stakesOf p = (termsOf p).map fun t =>
      (ns.map Parle.canonical).map fun c => (Risk.ofParle t.1 c, t.2) := by
  rw [stakesOf, hns]
  show ns.mapM (stakeOn p) = _
  rw [funext (stakeOn_parle hp), mapM_map_eq _ hne]
  simp only [List.map_map]
  rfl

/-- Equal stakes on some of the parles are as many as these are. -/
theorem map_snd_filter_stakes (r : Risk) (schedule : String) (x : Binary64) (cs : List String) :
    ((cs.map fun c => (Risk.ofParle schedule c, x)).filter fun e => r == e.1).map Prod.snd =
      List.replicate (cs.countP fun c => r == Risk.ofParle schedule c) x := by
  rw [List.filter_map, List.map_map, List.countP_eq_length_filter]
  exact List.map_const'

/-- **Plays on the same parles use up the same.** -/
theorem usage_of_sameParles (hp : p.playType = .text PlayType.parle.name)
    (hq : q.playType = p.playType) (hs : q.scheduleId = p.scheduleId) (ha : q.amount = p.amount)
    (hns : Numbers.ofValue p.numbers = .ok ns) (hms : Numbers.ofValue q.numbers = .ok ms)
    (h : Parle.SameParles ns ms) : SameUsage (usage [p]) (usage [q]) := by
  have hperm := h.perm_map_canonical
  have husage : ∀ p : Play, usage [p] = (stakesOf p).map (Amounts.record []) := by
    intro p
    rw [usage, List.foldlM_cons, addPlay_eq]
    cases stakesOf p <;> rfl
  have hterms : termsOf q = termsOf p := by
    rw [termsOf, termsOf, hs, ha]
  rw [husage, husage]
  -- Without numbers the amount is not even looked at, so it may be no double.
  by_cases hne : ns = []
  · subst hne
    obtain rfl : ms = [] := by simpa using hperm
    rw [stakesOf, stakesOf, hns, hms]
    exact .amounts fun _ => rfl
  · have hne' : ms ≠ [] := by
      rintro rfl
      exact hne (by simpa using hperm)
    rw [stakesOf_parles hp hns hne, stakesOf_parles (hq.trans hp) hms hne', hterms]
    -- Both plays stake the same on each parle, so only how often it stands there matters.
    cases termsOf p with
    | error f => exact .fault f
    | ok t =>
      refine .amounts fun r => ?_
      rw [Amounts.lookup_record, Amounts.lookup_record, map_snd_filter_stakes,
        map_snd_filter_stakes, hperm.countP_eq]

end Exposure
end Lottery
