/-
# Limits of zero

A limit of zero is no limit, but it is only looked at once the smaller of two
limits has been taken.  So it hides the other one, unless that is below zero:

| number's limit | play type's limit | counts | without the zeros |
| --- | --- | --- | --- |
| 0 | none | none | none |
| 0 | 0 | none | none |
| 0 | 15 | none | 15 |
| 15 | 0 | none | 15 |
| 0 | -15 | -15 | -15 |
| -15 | 0 | -15 | -15 |

`violations_withoutZeros_eq_iff` says when the zeros make no difference: exactly if
every stake fits into the limits that they hide, or the check has no answer anyway.

The smaller is taken by `_effective_limit`, and `check_instruction_limits` asks
afterwards whether it is zero.
-/

import Lottery.Proofs.Exposure.Judging

namespace Lottery
namespace Exposure

variable {ws : List Wager} {S : List String} {l : Limits} {U : Amounts} {r : Risk}
  {t : PlayType} {x : Binary64}

/-! ### Zeros -/

namespace Limits

/-- No risk and no play type has two limits. -/
structure Distinct (l : Limits) : Prop where
  numbers : Entries.Distinct l.numbers
  playTypes : Entries.Distinct l.playTypes

/-- The limits that are not zero. -/
def withoutZeros (l : Limits) : Limits :=
  ⟨l.numbers.filter fun e => !e.2.isZero, l.playTypes.filter fun e => !e.2.isZero⟩

/-- A limit that would count if the other one, which is zero, were not there. -/
inductive Hidden (l : Limits) (t : PlayType) (r : Risk) (x : Binary64) : Prop
  | byNumber {zero : Binary64} (number : l.numbers.lookup r = some zero)
      (isZero : zero.isZero = true) (playType : l.ofPlayType? t = some x)
      (ne_zero : x.isZero = false) (not_lt : x.lt zero = false)
  | byPlayType {zero : Binary64} (number : l.numbers.lookup r = some x)
      (ne_zero : x.isZero = false) (playType : l.ofPlayType? t = some zero)
      (isZero : zero.isZero = true) (lt : zero.lt x = true)

/-- Without zeros, a limit is the smaller one of those that are not zero. -/
theorem effective?_withoutZeros (hl : l.Distinct) (t : PlayType) (r : Risk) :
    l.withoutZeros.effective? t r =
      (smaller ((l.numbers.lookup r).filter fun x => !x.isZero)
        ((l.ofPlayType? t).filter fun x => !x.isZero)).filter fun x => !x.isZero := by
  have hn : l.withoutZeros.numbers.lookup r = (l.numbers.lookup r).filter fun x => !x.isZero :=
    Entries.lookup_filter hl.numbers r fun x => !x.isZero
  have ht : l.withoutZeros.ofPlayType? t = (l.ofPlayType? t).filter fun x => !x.isZero :=
    Entries.lookup_filter hl.playTypes t.name fun x => !x.isZero
  rw [effective?, hn, ht]

/-- A hidden limit does not count. -/
theorem Hidden.effective?_eq_none (h : l.Hidden t r x) : l.effective? t r = .none := by
  rw [effective?]
  rcases h with ⟨hn, hz, hp, hx, hlt⟩ | ⟨hn, hx, hp, hz, hlt⟩
  all_goals
    rw [hn, hp]
    simp [smaller, Option.filter_some, Binary64.least, hz, hlt]

/-- It does once the zeros are gone. -/
theorem Hidden.effective?_eq_some (hl : l.Distinct) (h : l.Hidden t r x) :
    l.withoutZeros.effective? t r = some x := by
  rw [effective?_withoutZeros hl]
  rcases h with ⟨hn, hz, hp, hx, hlt⟩ | ⟨hn, hx, hp, hz, hlt⟩
  all_goals
    rw [hn, hp]
    simp [smaller, Option.filter_some, hz, hx]

/-- Without the zeros the same limit counts, or one that was hidden. -/
theorem effective?_withoutZeros_cases (hl : l.Distinct) (t : PlayType) (r : Risk) :
    l.withoutZeros.effective? t r = l.effective? t r ∨ ∃ x, l.Hidden t r x := by
  rw [effective?_withoutZeros hl, effective?]
  cases hn : l.numbers.lookup r with
  | none =>
    left
    cases l.ofPlayType? t with
    | none => rfl
    | some p => by_cases hp : p.isZero = true <;> simp [smaller, Option.filter_some, hp]
  | some n =>
    cases hp : l.ofPlayType? t with
    | none =>
      left
      by_cases hzero : n.isZero = true <;> simp [smaller, Option.filter_some, hzero]
    | some p =>
      cases hnzero : n.isZero <;> cases hpzero : p.isZero <;> cases hlt : p.lt n
      -- The limit that is not zero is hidden if the zero is the smaller one.
      case true.false.false => exact .inr ⟨p, .byNumber hn hnzero hp hpzero hlt⟩
      case false.true.true => exact .inr ⟨n, .byPlayType hn hnzero hp hpzero hlt⟩
      all_goals
        left
        simp [smaller, Option.filter_some, Binary64.least, hnzero, hpzero, hlt]

end Limits

/-! ### One stake without the zeros -/

/-- A limit that is hidden behind a zero stops nothing. -/
theorem Limits.Hidden.violation?_eq_none {a : Attempt} (h : l.Hidden a.playType a.risk x) :
    a.violation? l U = .ok .none := by
  unfold Attempt.violation?
  rw [h.effective?_eq_none]

section Distinct

variable (hl : l.Distinct)
include hl

/-- Leaving out zeros changes the verdict on an attempt at most where a limit is hidden. -/
theorem violation?_withoutZeros_cases (a : Attempt) :
    a.violation? l.withoutZeros U = a.violation? l U ∨ ∃ x, l.Hidden a.playType a.risk x := by
  refine (Limits.effective?_withoutZeros_cases hl a.playType a.risk).imp_left fun h => ?_
  unfold Attempt.violation?
  rw [h]

/-- There it changes nothing exactly if the attempt fits the hidden limit anyway. -/
theorem violation?_withoutZeros_eq_iff (a : Attempt) :
    a.violation? l.withoutZeros U = a.violation? l U ↔
      ∀ x, l.Hidden a.playType a.risk x → a.Fits U x := by
  constructor
  · intro h x hx
    rw [hx.violation?_eq_none] at h
    exact (violation?_eq_none_iff (hx.effective?_eq_some hl)).1 h
  · intro h
    -- The zeros change nothing, or they hide one limit.
    rcases violation?_withoutZeros_cases hl a with heq | ⟨x, hx⟩
    · exact heq
    · rw [hx.violation?_eq_none, violation?_eq_none_iff (hx.effective?_eq_some hl)]
      exact h x hx

end Distinct

/-! ### What is reported without the zeros -/

/-- Violations where there were none come on top of those that there were. -/
theorem filterMap_id_sublist {os os' : List (Option Violation)}
    (h : List.Forall₂ (fun o o' => o' = o ∨ o = none) os os') :
    (os.filterMap id).Sublist (os'.filterMap id) := by
  induction h with
  | nil => exact List.Sublist.refl _
  | @cons o o' os os' hoo _ ih =>
    -- A result stays as it is, or nothing becomes something.
    rcases hoo with rfl | rfl
    · cases o' with
      | none => exact ih
      | some v => exact ih.cons_cons v
    · cases o' with
      | none => exact ih
      | some v => exact ih.cons v

/-- If the lists are the same, there are none. -/
theorem eq_of_filterMap_id_eq {os os' : List (Option Violation)}
    (h : List.Forall₂ (fun o o' => o' = o ∨ o = none) os os')
    (heq : os'.filterMap id = os.filterMap id) : os' = os := by
  induction h with
  | nil => rfl
  | @cons o o' os os' hoo hos ih =>
    cases o' with
    | none =>
      obtain rfl : o = none := hoo.elim Eq.symm id
      rw [ih heq]
    | some v =>
      rcases hoo with rfl | rfl
      · rw [ih (List.cons.inj heq).2]
      -- An added violation would make the list of them longer.
      · have hle := (filterMap_id_sublist hos).length_le
        rw [← (show _ = os.filterMap id from heq)] at hle
        exact absurd hle (Nat.not_succ_le_self _)

/-- Stakes that fault under the limits still do. -/
theorem violations_withoutZeros_of_eq_error {f : Fault} (hl : l.Distinct)
    (h : violations ws S l U = .error f) :
    violations ws S l.withoutZeros U = .error f := by
  obtain ⟨hf, a, ha, hbeyond, x, hx⟩ := violations_eq_error_iff.1 h
  refine violations_eq_error_iff.2 ⟨hf, a, ha, hbeyond, x, ?_⟩
  rcases Limits.effective?_withoutZeros_cases hl a.playType a.risk with heq | ⟨y, hy⟩
  · rw [heq, hx]
  · rw [hy.effective?_eq_none] at hx
    cases hx

/-- **A limit of zero is no limit exactly if no stake exceeds one that it hides.** -/
theorem violations_withoutZeros_eq_iff (hl : l.Distinct) :
    violations ws S l.withoutZeros U = violations ws S l U ↔ (∃ f, violations ws S l U = .error f) ∨
      ∀ a ∈ ws.flatMap (Attempt.ofWager S), ∀ x, l.Hidden a.playType a.risk x → a.Fits U x := by
  cases h : violations ws S l U with
  | error f => simp [violations_withoutZeros_of_eq_error hl h]
  | ok vs =>
    have hok : ¬ ∃ f : Fault, Except.ok vs = Except.error f := nofun
    rw [or_iff_right hok]
    obtain ⟨found, hfound, hvs⟩ := bind_eq_ok.1 h
    constructor
    · intro h' a ha
      obtain ⟨found', hfound', hvs'⟩ := bind_eq_ok.1 h'
      -- Without zeros there are no fewer violations, so equal lists mean that no attempt gained
      -- one.
      have hsame : found' = found :=
        eq_of_filterMap_id_eq (forall₂_of_mapM_eq_ok hfound hfound' fun a _ o o' ho ho' => by
            rcases violation?_withoutZeros_cases (U := U) hl a with heq | ⟨x, hx⟩
            · exact .inl (Except.ok.inj (ho'.symm.trans (heq.trans ho)))
            · exact .inr (Except.ok.inj (ho.symm.trans hx.violation?_eq_none)))
          (Except.ok.inj (hvs'.trans hvs.symm))
      have hmap := (mapM_eq_ok_iff.1 hfound').trans (hsame ▸ (mapM_eq_ok_iff.1 hfound).symm)
      exact (violation?_withoutZeros_eq_iff hl a).1 (List.map_inj_left.1 hmap a ha)
    · intro h'
      have hmap := List.map_congr_left fun a ha =>
        (violation?_withoutZeros_eq_iff hl a).2 (h' a ha)
      exact bind_eq_ok.2 ⟨found, mapM_eq_ok_iff.2 (hmap.trans (mapM_eq_ok_iff.1 hfound)), hvs⟩

/-- A wager of some stake on the number 12. -/
def onTwelve (each : Nat) : List Wager :=
  [⟨.fijo, ["12"], each, each, none⟩]

/-- The number 12 has a limit, and so has its play type. -/
def twoLimits (number playType : Binary64) : Limits :=
  ⟨[(.ofNumber "s1" .fijo "12", number)], [("fijo", playType)]⟩

/-- A stake of 5 fits into the limit of 15 that a zero hides. -/
theorem violations_withoutZeros_onTwelve :
    violations (onTwelve 5) ["s1"] (twoLimits (.zero false) (.ofInt 15)).withoutZeros [] =
      violations (onTwelve 5) ["s1"] (twoLimits (.zero false) (.ofInt 15)) [] := by
  have hl : (twoLimits (.zero false) (.ofInt 15)).Distinct := ⟨by decide, by decide⟩
  refine (violations_withoutZeros_eq_iff hl).2 (.inr fun a ha x hx => ?_)
  -- The stake of 5 fits below 15, the limit that the zero hides.
  have hattempts : (onTwelve 5).flatMap (Attempt.ofWager ["s1"]) = [⟨.fijo, "12", "s1", 5⟩] := by
    decide +kernel
  rw [hattempts, List.mem_singleton] at ha
  subst ha
  cases hx with
  | byNumber _ _ hp =>
    obtain rfl := Option.some.inj hp
    exact ⟨by decide +kernel, by decide +kernel⟩
  | byPlayType hn hx =>
    obtain rfl := Option.some.inj hn
    cases hx

/-- **A zero lifts the limit beside it,** be it that of the number or that of the play type. -/
theorem violations_of_zero_beside_fifteen :
    violations (onTwelve 20) ["s1"] (twoLimits (.zero false) (.ofInt 15)) [] = .ok [] ∧
    violations (onTwelve 20) ["s1"] (twoLimits (.zero false) (.ofInt 15)).withoutZeros [] =
      .ok [⟨"12", .fijo, "s1", .ofInt 15, .zero false, 20⟩] ∧
    violations (onTwelve 20) ["s1"] (twoLimits (.ofInt 15) (.zero false)) [] = .ok [] ∧
    violations (onTwelve 20) ["s1"] (twoLimits (.ofInt 15) (.zero false)).withoutZeros [] =
      .ok [⟨"12", .fijo, "s1", .ofInt 15, .zero false, 20⟩] := by
  decide +kernel

end Exposure
end Lottery
