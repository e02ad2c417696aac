/-
# When the check of a slip has a verdict, and what it may miss

| a stake on a number that has a limit | the check |
| --- | --- |
| from `2 ^ 1024 - 2 ^ 970` on | fails, as the stake is no double |
| above the limit by itself, and no more than `2 ^ 53` | reports it |
| above the limit by itself, but rounded with what is used to the limit | does not report it |
| above the limit by itself otherwise | reports it |

What is used and the limits are doubles, the stakes of a slip integers of any size.
An integer is made a double before it is added, so the sum may be the limit itself
although the stake alone is above it; below the limit it never is.

The check is `check_instruction_limits`, which adds the stake to what is used
before it compares.
-/

import Lottery.Proofs.Binary64.Integers
import Lottery.Proofs.Exposure.Located

namespace Lottery
namespace Exposure

variable {ws : List Wager} {S : List String} {l : Limits} {U : Amounts} {vs : List Violation}
  {t : PlayType} {r : Risk} {x : Binary64}

/-- All limits are finite doubles. -/
structure Limits.Finite (l : Limits) : Prop where
  numbers : ∀ e ∈ l.numbers, e.2.isFinite = true
  playTypes : ∀ e ∈ l.playTypes, e.2.isFinite = true

/-- All amounts are finite doubles. -/
def Amounts.Finite (U : Amounts) : Prop :=
  ∀ e ∈ U, e.2.isFinite = true

/-- Finite limits are numbers. -/
theorem Limits.Finite.numeric (h : l.Finite) : l.Numeric := by
  constructor
  · intro e he hnan
    exact nomatch hnan ▸ h.numbers e he
  · intro e he hnan
    exact nomatch hnan ▸ h.playTypes e he

/-- Where all amounts are finite, so is what is staked on any risk: it is one of them, or zero. -/
theorem Amounts.Finite.get (h : U.Finite) (r : Risk) : (U.get r).isFinite = true := by
  rw [Amounts.get]
  cases hr : U.lookup r with
  | none => rfl
  | some x =>
    obtain ⟨e, he, _, rfl⟩ := Entries.exists_mem_of_lookup hr
    exact h e he

namespace Attempt

/-- What a wager stakes on a number in a schedule, as often as it repeats it. -/
def of (w : Wager) (n s : String) : Attempt :=
  ⟨w.playType, n, s, w.each * w.numbers.count n⟩

/-- The report of an attempt under a limit. -/
def report (a : Attempt) (U : Amounts) (x : Binary64) : Violation :=
  ⟨a.number, a.playType, a.schedule, x, U.get a.risk, a.stake⟩

/-- An attempt that is by itself above a positive limit, what is used not being negative. -/
structure Above (a : Attempt) (l : Limits) (U : Amounts) (x : Binary64) : Prop where
  governs : l.Governs a.playType a.risk x
  positive : 0 < x.value
  used_nonneg : 0 ≤ (U.get a.risk).value
  above : x.value < a.stake

end Attempt

/-- The attempts of some wagers are on each number of each wager in each schedule. -/
theorem mem_attempts {a : Attempt} : a ∈ ws.flatMap (Attempt.ofWager S) ↔
    ∃ w ∈ ws, ∃ n ∈ w.numbers, ∃ s ∈ S, Attempt.of w n s = a := by
  simp only [List.mem_flatMap, Attempt.ofWager, Attempt.of, List.mem_eraseDups, List.mem_map]

/-- A limit that counts is positive if its value is. -/
theorem Limits.effective?_of_governs (hl : l.Numeric) (h : l.Governs t r x) (hpos : 0 < x.value) :
    l.effective? t r = some x := by
  refine (Limits.effective?_eq_some_iff hl).2 ⟨h, ?_⟩
  obtain ⟨u, hu, rfl, -, hne⟩ := Binary64.exists_eq_finite_of_value_pos hpos
  exact beq_eq_false_iff_ne.2 hne.ne'

/-- Where the check has a verdict, a stake that has a limit is a double. -/
theorem isFinite_of_mem_attempts (h : violations ws S l U = .ok vs) {a : Attempt}
    (ha : a ∈ ws.flatMap (Attempt.ofWager S)) (hx : l.effective? a.playType a.risk = some x) :
    (Binary64.ofInt a.stake).isFinite = true := by
  by_contra hfinite
  have herror : violations ws S l U = .error .beyondDoubles :=
    violations_eq_error_iff.2 ⟨rfl, a, ha, Bool.eq_false_iff.2 hfinite, x, hx⟩
  rw [h] at herror
  cases herror

/-- **A stake above its limit is reported, unless it is rounded to the limit** with what is used. -/
theorem report_mem_iff (hl : l.Numeric) (hU : U.Finite) (h : violations ws S l U = .ok vs)
    {a : Attempt} (ha : a ∈ ws.flatMap (Attempt.ofWager S)) (habove : a.Above l U x) :
    a.report U x ∈ vs ↔ (U.get a.risk).add (.ofInt a.stake) ≠ x := by
  have heffective := Limits.effective?_of_governs hl habove.governs habove.positive
  have hfinite := isFinite_of_mem_attempts h ha heffective
  have hzero := ((Limits.effective?_eq_some_iff hl).1 heffective).2
  -- The sum may be rounded down to the limit but not below it, so only that can hide the excess.
  have hreported := Binary64.lt_add_ofInt_iff habove.positive (hU.get _) habove.used_nonneg hfinite
    habove.above
  rw [← hreported, mem_violations_iff h]
  constructor
  · rintro ⟨b, -, hb⟩
    exact ((violation?_eq_some_iff hl).1 hb).2.2.2.2.2
  · intro hlt
    exact ⟨a, ha, (violation?_eq_some_iff hl).2
      ⟨⟨_, Value.doubleOfInt_eq_ok_iff.2 ⟨hfinite, rfl⟩⟩, rfl, habove.governs, hzero, rfl, hlt⟩⟩

/-- **The verdict on a slip.**  The check fails exactly if a stake that has a limit is no double.
Where it does not, it reports every stake that is by itself above a positive limit, unless the
stake is rounded to the limit together with what is used; none of no more than `2 ^ 53` is. -/
theorem violations_verdict (hl : l.Finite) (hU : U.Finite) (g : Slip.Grammar) (text : String)
    (S : List String) :
    (∀ f, violations ((Slip.read g text).instructions.map fun i => i.toWager) S l U = .error f ↔
      f = .beyondDoubles ∧ ∃ i ∈ (Slip.read g text).instructions, ∃ n ∈ i.numbers, ∃ s ∈ S,
        2 ^ 1024 - 2 ^ 970 ≤ i.each * i.numbers.count n ∧
          ∃ x, l.Governs i.playType (.ofNumber s i.playType n) x ∧ x.isZero = false) ∧
    ∀ vs, violations ((Slip.read g text).instructions.map fun i => i.toWager) S l U = .ok vs →
      ∀ i ∈ (Slip.read g text).instructions, ∀ n ∈ i.numbers, ∀ s ∈ S, ∀ x,
        (Attempt.of i.toWager n s).Above l U x →
          ((Attempt.of i.toWager n s).report U x ∈ vs ↔
            (U.get (.ofNumber s i.playType n)).add
              (.ofInt (i.each * i.numbers.count n : Nat)) ≠ x) ∧
          (i.each * i.numbers.count n ≤ 2 ^ 53 → (Attempt.of i.toWager n s).report U x ∈ vs) := by
  -- Each number and schedule of an instruction is one attempt of the check.
  have hmem : ∀ i ∈ (Slip.read g text).instructions, ∀ n ∈ i.numbers, ∀ s ∈ S,
      Attempt.of i.toWager n s ∈
        ((Slip.read g text).instructions.map fun i => i.toWager).flatMap (Attempt.ofWager S) :=
    fun i hi n hn s hs =>
      mem_attempts.2 ⟨i.toWager, List.mem_map.2 ⟨i, hi, rfl⟩, n, hn, s, hs, rfl⟩
  constructor
  · intro f
    rw [violations_eq_error_iff]
    -- The stake is the one thing that can fail, and does so from half a step beyond the greatest
    -- double.
    refine and_congr_right fun _ => ⟨?_, ?_⟩
    · rintro ⟨a, ha, hfinite, x, hx⟩
      obtain ⟨w, hw, n, hn, s, hs, rfl⟩ := mem_attempts.1 ha
      obtain ⟨i, hi, rfl⟩ := List.mem_map.1 hw
      refine ⟨i, hi, n, hn, s, hs, ?_, x, (Limits.effective?_eq_some_iff hl.numeric).1 hx⟩
      exact not_lt.1 fun hlt => Bool.eq_false_iff.1 hfinite (Binary64.isFinite_ofInt_iff.2 hlt)
    · rintro ⟨i, hi, n, hn, s, hs, hstake, x, hx⟩
      refine ⟨_, hmem i hi n hn s hs, ?_, x, (Limits.effective?_eq_some_iff hl.numeric).2 hx⟩
      exact Bool.eq_false_iff.2 fun hfinite =>
        not_lt.2 hstake (Binary64.isFinite_ofInt_iff.1 hfinite)
  · intro vs h i hi n hn s hs x habove
    have hiff := report_mem_iff hl.numeric hU h (hmem i hi n hn s hs) habove
    exact ⟨hiff, fun hle => hiff.2 (Binary64.add_ofInt_ne_of_le habove.positive (hU.get _)
      habove.used_nonneg hle habove.above)⟩

/-- A limit of 20 on the number 12. -/
def twentyOnTwelve : Limits :=
  ⟨[(.ofNumber "s1" .fijo "12", .ofInt 20)], []⟩

/-- A usage of 5 of it. -/
def fiveOnTwelve : Amounts :=
  [(.ofNumber "s1" .fijo "12", .ofInt 5)]

/-- A line that stakes 16 on it twice. -/
def twiceOnTwelve : Slip.Instruction :=
  ⟨⟨.fijo, ["12", "12"], 16, 32, none⟩, 1, ["12"]⟩

/-- The two stakes on one line are one attempt, of 32, and it is reported. -/
theorem violations_verdict_repeated :
    (Slip.read (.dash false) "12 12-16").instructions = [twiceOnTwelve] ∧
    (Attempt.of twiceOnTwelve.toWager "12" "s1").Above twentyOnTwelve fiveOnTwelve (.ofInt 20) ∧
    ∃ vs, violations ((Slip.read (.dash false) "12 12-16").instructions.map fun i => i.toWager)
        ["s1"] twentyOnTwelve fiveOnTwelve = .ok vs ∧
      (Attempt.of twiceOnTwelve.toWager "12" "s1").report fiveOnTwelve (.ofInt 20) ∈ vs := by
  have hl : twentyOnTwelve.Finite := ⟨by decide +kernel, by decide⟩
  have hU : fiveOnTwelve.Finite := by
    unfold Amounts.Finite
    decide +kernel
  -- The limit is 20, of which 5 are used, and the instruction puts 32 on the number.
  have hgoverns := ((Limits.effective?_eq_some_iff hl.numeric (t := .fijo)
    (r := .ofNumber "s1" .fijo "12") (x := .ofInt 20)).1 (by decide +kernel)).1
  have habove : (Attempt.of twiceOnTwelve.toWager "12" "s1").Above twentyOnTwelve fiveOnTwelve
      (.ofInt 20) :=
    ⟨hgoverns, by decide +kernel, by decide +kernel, by decide +kernel⟩
  have hread : (Slip.read (.dash false) "12 12-16").instructions = [twiceOnTwelve] := by
    decide +kernel
  have hvs : violations ((Slip.read (.dash false) "12 12-16").instructions.map fun i => i.toWager)
      ["s1"] twentyOnTwelve fiveOnTwelve =
        .ok [⟨"12", .fijo, "s1", .ofInt 20, .ofInt 5, 32⟩] := by
    decide +kernel
  obtain ⟨-, hreport⟩ := violations_verdict hl hU (.dash false) "12 12-16" ["s1"]
  have hinstruction := hreport _ hvs twiceOnTwelve (by rw [hread]; exact List.mem_singleton.2 rfl)
  exact ⟨hread, habove, _, hvs,
    (hinstruction "12" (by decide) "s1" (by decide) _ habove).2 (by decide)⟩

/-- **A stake that is no double has no verdict,** and one that is rounded to its limit is missed. -/
theorem violations_unjudged :
    violations ((Slip.read (.dash false) (String.ofList
        (['1', '2', '-', '1'] ++ List.replicate 309 '0'))).instructions.map fun i => i.toWager)
        ["s1"] ⟨[(.ofNumber "s1" .fijo "12", .ofInt 5)], []⟩ [] = .error .beyondDoubles ∧
    violations ((Slip.read (.dash false) "12-9007199254740993").instructions.map
        fun i => i.toWager) ["s1"] ⟨[(.ofNumber "s1" .fijo "12", .ofInt (2 ^ 53))], []⟩ [] =
      .ok [] := by
  simp only [Slip.read, String.toList_ofList]
  decide +kernel

end Exposure
end Lottery
