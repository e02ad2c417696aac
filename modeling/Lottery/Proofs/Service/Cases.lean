/-
# Limits that are not answered

A request puts a case, a slip with its schedules, the limits and what is staked
already (`caseOf`), which is judged (`judge`):

| step | breaks if |
| --- | --- |
| limits, plays | the first that is not in order is an integer beyond the doubles |
| judging | a stake under a limit is |
| the answer | the number of a rejected line is a long integer |

No stake that is reported is long, as it is a double.

The view is `check_limits_view`.
-/

import Lottery.Proofs.Exposure.Judging
import Lottery.Proofs.Service.Answers

namespace Lottery
namespace Service

/-- The schedules that a request lists. -/
def schedulesOf (fields : List (String × Value)) : Except Refusal (List String) :=
  orRefuse .ofInput (do
    let vs ← elementsOf fields "schedules"
    vs.mapM Value.written)

/-- What a slip is judged by. -/
structure Case where
  slip : Slip.Outcome
  schedules : List String
  limits : Exposure.Limits
  usage : Exposure.Amounts

/-- The case that a request puts. -/
def caseOf (fields : List (String × Value)) : Except Refusal Case := do
  let slip ← slipOf fields
  let schedules ← schedulesOf fields
  let numbers ← orRefuse .ofInput (numberLimitsOf fields)
  let playTypes ← orRefuse .ofInput (playTypeLimitsOf fields)
  let plays ← playsOf fields
  let usage ← orRefuse .ofInput (Exposure.usage plays)
  .ok ⟨slip, schedules, ⟨numbers, playTypes⟩, usage⟩

/-- The violations of a case. -/
def judge (c : Case) : Except Refusal Value := do
  let found ← orRefuse .failed
    (Exposure.violations (c.slip.instructions.map fun i => i.toWager) c.schedules c.limits c.usage)
  .ok (.object [
    ("violations", .list (found.map Show.violation)),
    ("errors", .list (c.slip.errors.map Show.lineError))])

/-- The check of limits takes its case from the fields, and judges it. -/
theorem checkLimits_eq (fields : List (String × Value)) :
    Answer.checkLimits fields = caseOf fields >>= judge := by
  unfold Answer.checkLimits caseOf schedulesOf
  simp only [bind_assoc]
  rfl

/-! ### Judging -/

/-- Why a case is not judged. -/
inductive JudgingFails (c : Case) : Prop where
  /-- A stake under a limit is an integer beyond the doubles. -/
  | stake {a : Exposure.Attempt} {x : Binary64}
      (ha : a ∈ (c.slip.instructions.map fun i => i.toWager).flatMap
        (Exposure.Attempt.ofWager c.schedules))
      (hx : c.limits.effective? a.playType a.risk = some x)
      (h : (Binary64.ofInt a.stake).isFinite = false)
  /-- The number of a rejected line is a long integer. -/
  | line {e : Nat × LineError} (he : e ∈ c.slip.errors) (h : Text.isLong e.1 = true)

/-- Judging breaks exactly if a stake under a limit is an integer beyond the doubles, or the number
of a rejected line is a long integer. -/
theorem breaks_judge {c : Case} : Breaks (judge c) ↔ JudgingFails c := by
  unfold judge
  rw [breaks_bind, fails_orRefuse_failed]
  constructor
  · rintro (⟨f, hf⟩ | ⟨found, hfound, hb⟩)
    · obtain ⟨_, a, ha, hbeyond, x, hx⟩ := Exposure.violations_eq_error_iff.1 hf
      exact .stake ha hx hbeyond
    -- A violation holds a stake that is a double, so it is no long integer; a line may be.
    · have hfinite := Exposure.isFinite_of_mem_violations (orRefuse_eq_ok.1 hfound)
      rw [breaks_ok] at hb
      simp only [Value.hasLongInteger, Value.anyLongField, Value.anyLongInteger_map,
        Show.hasLongInteger_violation, Show.hasLongInteger_lineError, Bool.or_false,
        Bool.or_eq_true_iff] at hb
      rcases hb with ⟨v, hv, hlong⟩ | ⟨e, he, hlong⟩
      · rw [Text.isLong_eq_false_of_isFinite (hfinite v hv)] at hlong
        cases hlong
      · exact .line he hlong
  · intro hfails
    cases hv : Exposure.violations (c.slip.instructions.map fun i => i.toWager) c.schedules
      c.limits c.usage with
    | error f => exact .inl ⟨f, rfl⟩
    | ok found =>
      cases hfails with
      | stake ha hx hbeyond =>
        rw [Exposure.violations_eq_error_iff.2 ⟨rfl, _, ha, hbeyond, _, hx⟩] at hv
        cases hv
      | line he hlong =>
        refine .inr ⟨found, rfl, breaks_ok.2 ?_⟩
        simp only [Value.hasLongInteger, Value.anyLongField, Value.anyLongInteger_map,
          Show.hasLongInteger_lineError, Bool.or_false, Bool.or_eq_true_iff]
        exact .inr ⟨_, he, hlong⟩

/-! ### Putting a case -/

/-- Why a case is not put. -/
inductive CaseFails (fields : List (String × Value)) : Prop where
  /-- The first limit of a number that is not in order is beyond the doubles. -/
  | number {slip : Slip.Outcome} {schedules : List String} (hslip : slipOf fields = .ok slip)
      (hschedules : schedulesOf fields = .ok schedules) (h : OversizedLimits fields)
  /-- So is the first limit of a play type. -/
  | playType {slip : Slip.Outcome} {schedules : List String} {numbers : Exposure.Amounts}
      (hslip : slipOf fields = .ok slip) (hschedules : schedulesOf fields = .ok schedules)
      (hnumbers : numberLimitsOf fields = .ok numbers) (h : OversizedPlayTypeLimits fields)
  /-- The first play that is not in order has an amount beyond the doubles. -/
  | play {slip : Slip.Outcome} {schedules : List String} {numbers : Exposure.Amounts}
      {playTypes : Entries String Binary64} (hslip : slipOf fields = .ok slip)
      (hschedules : schedulesOf fields = .ok schedules)
      (hnumbers : numberLimitsOf fields = .ok numbers)
      (hplayTypes : playTypeLimitsOf fields = .ok playTypes) (h : OversizedPlays fields)

section Fields

variable {fields : List (String × Value)} (h : Value.anyLongField fields = false)
include h

/-- Reading the schedules does not fail: each can be written, and what cannot be gone through is
explained. -/
theorem not_fails_schedulesOf : ¬Fails (schedulesOf fields) := by
  rw [schedulesOf, fails_orRefuse_ofInput]
  rintro ⟨f, hf, hbound⟩
  rcases bind_eq_error.1 hf with hf | ⟨vs, hvs, hf⟩
  · rw [Value.elements_eq_error hf] at hbound
    rcases hbound with hb | hb | hb <;> cases hb
  · obtain ⟨ss, hss⟩ := exists_elements_mapM_written h "schedules" hvs
    rw [hss] at hf
    cases hf

/-- Taking the case fails exactly if an amount, a total or a limit is beyond the doubles, before
anything is refused. -/
theorem fails_caseOf : Fails (caseOf fields) ↔ CaseFails fields := by
  unfold caseOf
  constructor
  · intro hf
    -- In the order of reading, so each cause comes with what was read before it.
    rcases fails_bind.1 hf with hf | ⟨slip, hslip, hf⟩
    · exact absurd hf (not_fails_slipOf h)
    rcases fails_bind.1 hf with hf | ⟨schedules, hschedules, hf⟩
    · exact absurd hf (not_fails_schedulesOf h)
    rcases fails_bind.1 hf with hf | ⟨numbers, hnumbers, hf⟩
    · exact .number hslip hschedules ((fails_numberLimitsOf h).1 hf)
    have hnumbers := orRefuse_eq_ok.1 hnumbers
    rcases fails_bind.1 hf with hf | ⟨playTypes, hplayTypes, hf⟩
    · exact .playType hslip hschedules hnumbers (fails_playTypeLimitsOf.1 hf)
    rcases fails_bind.1 hf with hf | ⟨plays, hplays, hf⟩
    · exact .play hslip hschedules hnumbers (orRefuse_eq_ok.1 hplayTypes)
        ((fails_playsOf h).1 hf)
    rcases fails_bind.1 hf with hf | ⟨usage, _, hf⟩
    · exact absurd hf (not_fails_orRefuse (exists_usage (plain_of_playsOf hplays)))
    · exact absurd hf not_fails_ok
  · intro hf
    cases hf with
    | number hslip hschedules hf =>
      rw [bind_of_eq_ok hslip, bind_of_eq_ok hschedules]
      exact fails_bind.2 (.inl ((fails_numberLimitsOf h).2 hf))
    | playType hslip hschedules hnumbers hf =>
      rw [bind_of_eq_ok hslip, bind_of_eq_ok hschedules,
        bind_of_eq_ok (orRefuse_eq_ok.2 hnumbers)]
      exact fails_bind.2 (.inl (fails_playTypeLimitsOf.2 hf))
    | play hslip hschedules hnumbers hplayTypes hf =>
      rw [bind_of_eq_ok hslip, bind_of_eq_ok hschedules,
        bind_of_eq_ok (orRefuse_eq_ok.2 hnumbers), bind_of_eq_ok (orRefuse_eq_ok.2 hplayTypes)]
      exact fails_bind.2 (.inl ((fails_playsOf h).2 hf))

/-- **The check of limits goes unanswered exactly if its case fails, or the judging of it.** -/
theorem breaks_checkLimits : Breaks (Answer.checkLimits fields) ↔
    CaseFails fields ∨ ∃ c, caseOf fields = .ok c ∧ JudgingFails c := by
  rw [checkLimits_eq, breaks_bind, fails_caseOf h]
  simp only [breaks_judge]

end Fields

end Service
end Lottery
