/-
# The limit check and the spelling of parles

Limits and usage are kept for a risk, so for both spellings of a parle at once.
Attempts are made for each spelling by itself, and judged by their risk and
their stake (`report?_eq`).  So the check does not depend on how numbers are
spelled as long as each parle is split among its two spellings in the same way
(`reports_respelled`), and it does where that changes (`talliedAlike_of_reports_eq`,
`not_reported_in_both_spellings`):

| wager at 5, no more than 8 on `1234` | attempts | reported |
| --- | --- | --- |
| `1234` `1234` | 10 | yes |
| `3412` `3412` | 10 | yes |
| `1234` `3412` | 5 and 5 | no |
| `12*12*34` | 5 on `1212`, 10 | yes |
| `12*34*12` | 5 on `1212`, 5 and 5 | no |

The reason is in `check_instruction_limits`: it counts the numbers of an
instruction as they are spelled, and looks for the key that `limit_key` gives
them, which is one for both spellings.
-/

import Lottery.Proofs.Binary64.Whole
import Lottery.Proofs.Exposure.Judging
import Lottery.Proofs.Slip.Lines
import Lottery.Proofs.Slip.Pairs
import Mathlib.Data.Set.Defs

namespace Lottery
namespace Exposure

variable {S : List String} {l : Limits} {U : Amounts} {ws ws' : List Wager} {w w' : Wager}
  {r : Risk}

/-! ### What is reported -/

/-- The risk whose limit a violation exceeds. -/
def Violation.risk (v : Violation) : Risk :=
  .ofNumber v.schedule v.playType v.number

/-- The risks that are reported for some wagers in some schedules. -/
def reports (ws : List Wager) (S : List String) (l : Limits) (U : Amounts) :
    Except Fault (Set Risk) :=
  (violations ws S l U).map fun vs => {r | ∃ v ∈ vs, v.risk = r}

namespace Attempt

/-- The risk of an attempt, if it is reported. -/
def report? (l : Limits) (U : Amounts) (a : Attempt) : Except Fault (Option Risk) :=
  (a.violation? l U).map (Option.map Violation.risk)

/-- **The number as it is spelled plays no part in the judgement,** only its risk. -/
theorem report?_eq (a : Attempt) : a.report? l U =
    match l.effective? a.playType a.risk with
    | none => .ok none
    | some allowed => (Value.doubleOfInt a.stake).map fun x =>
        if allowed.lt ((U.get a.risk).add x) then some a.risk else none := by
  rw [report?, violation?]
  -- Without a limit nothing is compared, so not even a stake beyond the doubles fails.
  cases l.effective? a.playType a.risk with
  | none => rfl
  | some allowed =>
    dsimp only
    cases Value.doubleOfInt a.stake with
    | error e => rfl
    | ok x =>
      show Except.ok (Option.map Violation.risk (if _ then some _ else none)) = Except.ok _
      rw [apply_ite (Option.map Violation.risk)]
      rfl

/-- What is reported of an attempt depends on its play type, its risk and its stake alone. -/
theorem report?_congr {a b : Attempt} (ht : b.playType = a.playType) (hr : b.risk = a.risk)
    (hs : b.stake = a.stake) : b.report? l U = a.report? l U := by
  rw [report?_eq, report?_eq, ht, hr, hs]

/-- An attempt cannot be reported on only for a stake beyond the doubles. -/
theorem eq_of_report?_eq_error {a : Attempt} {e : Fault} (h : a.report? l U = .error e) :
    e = .beyondDoubles := by
  rw [report?] at h
  cases hv : a.violation? l U with
  | error f =>
    rw [hv] at h
    obtain rfl : f = e := Except.error.inj h
    exact (violation?_eq_error_iff.1 hv).1
  | ok o =>
    rw [hv] at h
    cases h

end Attempt

/-- The reports on wagers are those on all their attempts, as a set. -/
theorem reports_eq : reports ws S l U =
    ((ws.flatMap (Attempt.ofWager S)).mapM (Attempt.report? l U)).map
      fun rs => {r | some r ∈ rs} := by
  have hreport : Attempt.report? l U =
      fun a => (a.violation? l U).map (Option.map Violation.risk) := rfl
  rw [hreport, ← map_mapM, reports, violations]
  cases (ws.flatMap (Attempt.ofWager S)).mapM (Attempt.violation? l U) with
  | error e => rfl
  | ok found =>
    -- As sets of risks, the order and number of violations are gone.
    refine congrArg Except.ok (Set.ext fun r => ?_)
    show (∃ v ∈ found.filterMap id, v.risk = r) ↔ some r ∈ found.map (Option.map Violation.risk)
    rw [List.mem_map]
    constructor
    · rintro ⟨v, hv, rfl⟩
      obtain ⟨o, ho, hov⟩ := List.mem_filterMap.1 hv
      exact ⟨o, ho, by rw [show o = some v from hov]; rfl⟩
    · rintro ⟨o, ho, hor⟩
      obtain ⟨v, rfl, hv⟩ := Option.map_eq_some_iff.1 hor
      exact ⟨v, List.mem_filterMap.2 ⟨some v, ho, rfl⟩, hv⟩

/-- Each number of a wager has a counterpart in the other: the same risk, staked on as much. -/
structure CoveredBy (w w' : Wager) : Prop where
  playType_eq : w'.playType = w.playType
  each_eq : w'.each = w.each
  counterpart : ∀ n ∈ w.numbers, ∃ m ∈ w'.numbers,
    (∀ s, Risk.ofNumber s w'.playType m = Risk.ofNumber s w.playType n) ∧
      w'.numbers.count m = w.numbers.count n

/-- Two wagers that are covered by each other. -/
def Matched (w w' : Wager) : Prop :=
  CoveredBy w w' ∧ CoveredBy w' w

/-- A wager matches itself. -/
theorem Matched.refl (w : Wager) : Matched w w :=
  have h : CoveredBy w w := ⟨rfl, rfl, fun n hn => ⟨n, hn, fun _ => rfl, rfl⟩⟩
  ⟨h, h⟩

/-- An attempt of a covered wager is judged like one of the other. -/
theorem CoveredBy.exists_attempt (h : CoveredBy w w') {a : Attempt}
    (ha : a ∈ Attempt.ofWager S w) :
    ∃ b ∈ Attempt.ofWager S w', b.report? l U = a.report? l U := by
  obtain ⟨n, hn, ha⟩ := List.mem_flatMap.1 ha
  obtain ⟨s, hs, rfl⟩ := List.mem_map.1 ha
  -- The counterpart has the same risk and stands as often, so it stakes the same.
  obtain ⟨m, hm, hrisk, hcount⟩ := h.counterpart n (List.mem_eraseDups.1 hn)
  refine ⟨⟨w'.playType, m, s, w'.each * w'.numbers.count m⟩, ?_, ?_⟩
  · exact List.mem_flatMap.2 ⟨m, List.mem_eraseDups.2 hm, List.mem_map.2 ⟨s, hs, rfl⟩⟩
  · refine Attempt.report?_congr h.playType_eq (hrisk s) ?_
    show w'.each * _ = w.each * _
    rw [h.each_eq, hcount]

/-- **Wagers that cover each other have the same reports.** -/
theorem reports_eq_of_coveredBy (h : ∀ w ∈ ws, ∃ w' ∈ ws', CoveredBy w w')
    (h' : ∀ w' ∈ ws', ∃ w ∈ ws, CoveredBy w' w) : reports ws S l U = reports ws' S l U := by
  -- An attempt of a wager is made by the wager that covers it, with the same report.
  have hlift : ∀ {vs vs' : List Wager}, (∀ v ∈ vs, ∃ v' ∈ vs', CoveredBy v v') →
      ∀ a ∈ vs.flatMap (Attempt.ofWager S), ∃ b ∈ vs'.flatMap (Attempt.ofWager S),
        b.report? l U = a.report? l U := by
    intro vs vs' hvs a ha
    obtain ⟨v, hv, ha⟩ := List.mem_flatMap.1 ha
    obtain ⟨v', hv', hcov⟩ := hvs v hv
    obtain ⟨b, hb, heq⟩ := hcov.exists_attempt ha
    exact ⟨b, List.mem_flatMap.2 ⟨v', hv', hb⟩, heq⟩
  rw [reports_eq, reports_eq]
  refine map_mapM_eq_of_same (fun a e => Attempt.eq_of_report?_eq_error) ?_ (hlift h) (hlift h')
  intro rs rs' hrs
  exact Set.ext fun r => hrs (some r)

/-! ### Numbers spelled otherwise -/

/-- The same parle wager with some of its numbers in the other spelling. -/
structure Respelled (w w' : Wager) : Prop where
  parle : w.playType = .parle
  playType_eq : w'.playType = w.playType
  each_eq : w'.each = w.each
  numbers : List.Forall₂ (fun n m => m = n ∨ m = Parle.swapped n) w.numbers w'.numbers

/-- Spellings of one parle are one risk. -/
theorem ofNumber_eq_of_canonical_eq {m n : String} (h : Parle.canonical m = Parle.canonical n)
    (s : String) : Risk.ofNumber s .parle m = Risk.ofNumber s .parle n := by
  rw [Risk.ofNumber, Risk.ofNumber, if_pos rfl, if_pos rfl, h]

/-- Parles that are tallied alike match. -/
theorem matched_of_talliedAlike (ht : w.playType = .parle) (ht' : w'.playType = .parle)
    (heach : w'.each = w.each) (hsame : Parle.SameParles w.numbers w'.numbers)
    (halike : Parle.TalliedAlike w.numbers w'.numbers) : Matched w w' := by
  constructor
  · refine ⟨ht'.trans ht.symm, heach, fun n hn => ?_⟩
    have hpos : 0 < w.numbers.count n := List.count_pos_iff.2 hn
    rw [ht, ht']
    -- The number is tallied in its own spelling or in the other one; either has the same risk.
    rcases halike n hn with hcount | hcount
    · exact ⟨n, List.count_pos_iff.1 (hcount ▸ hpos), fun _ => rfl, hcount⟩
    · exact ⟨Parle.swapped n, List.count_pos_iff.1 (hcount ▸ hpos),
        ofNumber_eq_of_canonical_eq (Parle.canonical_swapped n), hcount⟩
  · refine ⟨ht.trans ht'.symm, heach.symm, fun m hm => ?_⟩
    obtain ⟨n, hn, hcanonical, hcount⟩ := halike.exists_count_eq hsame hm
    rw [ht, ht']
    exact ⟨n, hn, ofNumber_eq_of_canonical_eq hcanonical.symm, hcount.symm⟩

/-! ### Slips with base numbers in another order -/

/-- In lists that are related in place each element is related to one of the other list. -/
theorem exists_of_forall₂ {α β : Type} {R : α → β → Prop} {as : List α} {bs : List β}
    (h : List.Forall₂ R as bs) : (∀ a ∈ as, ∃ b ∈ bs, R a b) ∧ ∀ b ∈ bs, ∃ a ∈ as, R a b := by
  -- Both directions at once, along the pairs.
  induction h with
  | nil => exact ⟨fun _ ha => absurd ha List.not_mem_nil, fun _ hb => absurd hb List.not_mem_nil⟩
  | cons hab _ ih =>
    constructor
    · intro c hc
      rcases List.mem_cons.1 hc with rfl | hc
      · exact ⟨_, List.mem_cons_self, hab⟩
      · obtain ⟨d, hd, hcd⟩ := ih.1 c hc
        exact ⟨d, List.mem_cons_of_mem _ hd, hcd⟩
    · intro d hd
      rcases List.mem_cons.1 hd with rfl | hd
      · exact ⟨_, List.mem_cons_self, hab⟩
      · obtain ⟨c, hc, hcd⟩ := ih.2 d hd
        exact ⟨c, List.mem_cons_of_mem _ hc, hcd⟩

/-- Wagers that match one by one have the same reports. -/
theorem reports_eq_of_forall₂ (h : List.Forall₂ Matched ws ws') :
    reports ws S l U = reports ws' S l U := by
  obtain ⟨hforth, hback⟩ := exists_of_forall₂ h
  refine reports_eq_of_coveredBy (fun w hw => ?_) fun w' hw' => ?_
  · obtain ⟨w', hw', hcov⟩ := hforth w hw
    exact ⟨w', hw', hcov.1⟩
  · obtain ⟨w, hw, hcov⟩ := hback w' hw'
    exact ⟨w, hw, hcov.2⟩

/-- The wagers of a reordered line match those of the line. -/
theorem forall₂_wagers_of_reordered {cs ds : List Char} (locked : Bool)
    (h : Slip.Dash.Reordered cs ds) :
    List.Forall₂ Matched ((Slip.Grammar.dash locked).wagers cs)
      ((Slip.Grammar.dash locked).wagers ds) := by
  have hrefl : ∀ vs : List Wager, List.Forall₂ Matched vs vs :=
    fun vs => List.forall₂_same.2 fun w _ => .refl w
  cases h with
  | same => exact hrefl _
  | @starred ts us h hts halike rest =>
    -- With fewer than two tokens there is nothing to reorder.
    by_cases hlen : 2 ≤ ts.length
    · obtain ⟨r, hl, hr⟩ := Slip.Dash.exists_line_starred_perm hts h locked rest hlen
      rw [Slip.Grammar.wagers, Slip.Grammar.wagers, Slip.Grammar.line, hl, hr]
      cases r with
      | error e => exact .nil
      | ok a =>
        refine .cons (matched_of_talliedAlike rfl rfl rfl ?_ halike) .nil
        exact Slip.sameParles_pairNumbers (fun g => Slip.Dash.length_of_mem_bases)
          (Slip.Dash.bases_perm h)
    · -- A single token has no other order.
      have heq : us = ts := by
        rcases Nat.lt_or_eq_of_le (Nat.le_of_lt_succ (Nat.not_le.1 hlen)) with hnil | hone
        · obtain rfl := List.length_eq_zero_iff.1 (Nat.lt_one_iff.1 hnil)
          exact h.nil_eq.symm
        · obtain ⟨t, rfl⟩ := List.length_eq_one_iff.1 hone
          exact h.symm.eq_singleton
      rw [heq]
      exact hrefl _

/-! ### Tallies that are not alike -/

/-- One number has a limit, and nothing else has. -/
def Limits.single (r : Risk) (n : Nat) : Limits :=
  ⟨[(r, .ofInt n)], []⟩

/-- An attempt under the limit of one number is reported if it is on that number and for more. -/
theorem Attempt.report?_single {a : Attempt} {n : Nat} (hn : 0 < n)
    (hle : n ≤ 2 ^ 53) (ha : a.stake ≤ 2 ^ 53) :
    a.report? (.single r n) [] =
      .ok (if (a.risk == r) = true ∧ n < a.stake then some a.risk else none) := by
  have hlimit : (Binary64.ofInt n).IsWhole n := Binary64.isWhole_ofInt (by omega)
  have hstake : (Binary64.ofInt a.stake).IsWhole a.stake := Binary64.isWhole_ofInt (by omega)
  have hsum : ((Amounts.get [] a.risk).add (Binary64.ofInt a.stake)).IsWhole a.stake := by
    have := Binary64.isWhole_zero.add hstake (by omega)
    rwa [Int.zero_add] at this
  -- The limit is for one risk and not zero, so it counts exactly for that risk.
  have heffective : (Limits.single r n).effective? a.playType a.risk =
      if (a.risk == r) = true then some (.ofInt n) else none := by
    rw [Limits.effective?]
    show Option.filter _ (Limits.smaller (List.lookup a.risk [(r, .ofInt n)]) none) = _
    rw [List.lookup_cons]
    cases a.risk == r with
    | false => rfl
    | true =>
      show (if (!(Binary64.ofInt n).isZero) = true then _ else _) = _
      rw [hlimit.isZero_eq_false (by omega)]
      rfl
  rw [Attempt.report?_eq, heffective]
  by_cases hrisk : (a.risk == r) = true
  · rw [if_pos hrisk]
    dsimp only
    rw [Value.doubleOfInt_eq_ok_iff.2 ⟨hstake.1, rfl⟩]
    show Except.ok _ = _
    simp only [hlimit.lt_iff hsum, Int.ofNat_lt, hrisk, true_and]
  · rw [if_neg hrisk]
    simp [hrisk]

/-- A wager under the limit of one parle is reported if the stakes on one of its spellings exceed
the limit. -/
theorem exists_reports_single (hw : w.playType = .parle) (n : String) {k : Nat} (hk : 0 < k)
    (hle : k ≤ 2 ^ 53) (hsmall : w.each * w.numbers.length ≤ 2 ^ 53) :
    ∃ R, reports [w] [""] (.single (.ofNumber "" .parle n) k) [] = .ok R ∧
      (Risk.ofNumber "" .parle n ∈ R ↔ k < w.each * Parle.greaterTally w.numbers n) := by
  -- A wager on parles makes one attempt for each spelling that stands in it.
  have hattempts : ∀ a ∈ [w].flatMap (Attempt.ofWager [""]),
      ∃ m ∈ w.numbers, a = ⟨.parle, m, "", w.each * w.numbers.count m⟩ := by
    intro a ha
    rw [List.flatMap_singleton] at ha
    obtain ⟨m, hm, ha⟩ := List.mem_flatMap.1 ha
    rw [← hw]
    exact ⟨m, List.mem_eraseDups.1 hm, List.mem_singleton.1 ha⟩
  have hstake : ∀ a ∈ [w].flatMap (Attempt.ofWager [""]), a.stake ≤ 2 ^ 53 := by
    intro a ha
    obtain ⟨m, _, rfl⟩ := hattempts a ha
    exact Nat.le_trans (Nat.mul_le_mul_left _ List.count_le_length) hsmall
  rw [reports_eq, mapM_eq_ok fun a ha => Attempt.report?_single hk hle (hstake a ha)]
  refine ⟨_, rfl, ?_⟩
  show some _ ∈ List.map _ _ ↔ _
  rw [List.mem_map]
  constructor
  · rintro ⟨a, ha, hsome⟩
    obtain ⟨m, hm, rfl⟩ := hattempts a ha
    obtain ⟨⟨hrisk, hlt⟩, _⟩ := Option.ite_none_right_eq_some.1 hsome
    have hcanonical : Parle.canonical m = Parle.canonical n := (Risk.ofNumber_beq_iff.1 hrisk).2.2
    exact Nat.lt_of_lt_of_le hlt
      (Nat.mul_le_mul_left _ (Parle.count_le_greaterTally hcanonical))
  -- The spelling with the greater tally is the one whose attempt is reported.
  · intro hlt
    obtain ⟨m, hcanonical, hcount⟩ := Parle.exists_count_eq_greaterTally w.numbers n
    rw [← hcount] at hlt
    have hm : m ∈ w.numbers := by
      refine List.count_pos_iff.1 (Nat.pos_of_ne_zero fun h => ?_)
      rw [h, Nat.mul_zero] at hlt
      exact absurd hlt (Nat.not_lt_zero k)
    refine ⟨⟨.parle, m, "", w.each * w.numbers.count m⟩, ?_, ?_⟩
    · rw [List.flatMap_singleton, ← hw]
      exact List.mem_flatMap.2 ⟨m, List.mem_eraseDups.2 hm, List.mem_singleton.2 rfl⟩
    · rw [if_pos ⟨Risk.ofNumber_beq_iff.2 ⟨rfl, rfl, hcanonical⟩, hlt⟩]
      exact congrArg some (ofNumber_eq_of_canonical_eq hcanonical "")

/-- **Where the tallies differ, some limit tells the spellings apart.** -/
theorem talliedAlike_of_reports_eq (h : Respelled w w') (hpos : 0 < w.each)
    (hsmall : w.each * w.numbers.length ≤ 2 ^ 53)
    (heq : ∀ S l U, reports [w] S l U = reports [w'] S l U) :
    Parle.TalliedAlike w.numbers w'.numbers := by
  have hsame := Parle.sameParles_of_forall₂ h.numbers
  refine Parle.talliedAlike_of_greaterTally_eq hsame fun n hn => ?_
  have hsmall' : w'.each * w'.numbers.length ≤ 2 ^ 53 := by
    rw [h.each_eq, ← h.numbers.length_eq]
    exact hsmall
  have hcount : 0 < w.numbers.count n := List.count_pos_iff.2 hn
  have htotal := hsame n
  by_contra hne
  -- Under the smaller of the greater tallies as limit, only one of the wagers is reported.
  let k := min (Parle.greaterTally w.numbers n) (Parle.greaterTally w'.numbers n)
  have hk : 0 < k := by
    simp only [k, Parle.greaterTally]
    omega
  have hle : w.each * k ≤ 2 ^ 53 :=
    Nat.le_trans (Nat.mul_le_mul_left _
      (Nat.le_trans (Nat.min_le_left ..) (Parle.greaterTally_le_length ..))) hsmall
  obtain ⟨R, hR, hmem⟩ :=
    exists_reports_single h.parle n (Nat.mul_pos hpos hk) hle hsmall
  obtain ⟨R', hR', hmem'⟩ :=
    exists_reports_single (h.playType_eq.trans h.parle) n (Nat.mul_pos hpos hk) hle hsmall'
  obtain rfl : R = R' := by
    rw [heq, hR'] at hR
    exact (Except.ok.inj hR).symm
  rw [hmem', h.each_eq, Nat.mul_lt_mul_left hpos, Nat.mul_lt_mul_left hpos] at hmem
  simp only [k] at hmem
  omega

/-! ### The check and the spelling -/

/-- The risks that are reported for a slip with dashes. -/
def slipReports (locked : Bool) (text : String) (S : List String) (l : Limits) (U : Amounts) :
    Except Fault (Set Risk) :=
  reports ((Slip.read (.dash locked) text).instructions.map fun i => i.toWager) S l U

/-- **What is reported does not depend on the spelling** as long as the numbers are tallied alike,
and for stakes up to `2^53` nothing less will do.  A slip with the base numbers of some lines in
another order has the same reports if their pairs are tallied alike, and that they are in every
order if no base number is repeated. -/
theorem reports_respelled {w w' : Wager} (h : Respelled w w') (locked : Bool) {text text' : String}
    (htext : List.Forall₂ Slip.Dash.Reordered (Text.lines text.toList)
      (Text.lines text'.toList)) :
    (Parle.TalliedAlike w.numbers w'.numbers →
      ∀ S l U, reports [w] S l U = reports [w'] S l U) ∧
    (0 < w.each → w.each * w.numbers.length ≤ 2 ^ 53 →
      (∀ S l U, reports [w] S l U = reports [w'] S l U) →
        Parle.TalliedAlike w.numbers w'.numbers) ∧
    (∀ S l U, slipReports locked text S l U = slipReports locked text' S l U) ∧
    ∀ ts us : List (List Char), ts.Perm us → (Slip.Dash.bases ts).Nodup →
      Parle.TalliedAlike (Slip.pairNumbers (Slip.Dash.bases ts))
        (Slip.pairNumbers (Slip.Dash.bases us)) := by
  refine ⟨fun halike S l U => ?_, talliedAlike_of_reports_eq h, fun S l U => ?_,
    fun ts us hperm hnodup => ?_⟩
  · have hcov := matched_of_talliedAlike h.parle (h.playType_eq.trans h.parle) h.each_eq
      (Parle.sameParles_of_forall₂ h.numbers) halike
    exact reports_eq_of_forall₂ (.cons hcov .nil)
  -- Line by line: each line makes the same reports in its new order.
  · have hlines := List.rel_flatMap htext fun _ _ => forall₂_wagers_of_reordered locked
    rw [slipReports, slipReports, Slip.map_toWager_instructions_read,
      Slip.map_toWager_instructions_read]
    exact reports_eq_of_forall₂ hlines
  · exact Slip.talliedAlike_pairNumbers_of_nodup (fun g => Slip.Dash.length_of_mem_bases)
      (Slip.Dash.bases_perm hperm) hnodup

/-- Three numbers of a parle at 5. -/
def threeParles (a b c : String) : Wager :=
  .staking .parle [a, b, c] 5 (some .direct)

/-- No more than 8 on a parle in the schedule `s1`. -/
def limitOfParle (n : String) : Limits :=
  .single (.ofNumber "s1" .parle n) 8

/-- `1234` twice is reported however it is spelled, and so is `12*34*56` in any order. -/
theorem reports_respelled_twice :
    Respelled (threeParles "1234" "1234" "0199") (threeParles "3412" "3412" "0199") ∧
    violations [threeParles "1234" "1234" "0199"] ["s1"] (limitOfParle "1234") [] =
      .ok [⟨"1234", .parle, "s1", .ofInt 8, .zero false, 10⟩] ∧
    violations [threeParles "3412" "3412" "0199"] ["s1"] (limitOfParle "1234") [] =
      .ok [⟨"3412", .parle, "s1", .ofInt 8, .zero false, 10⟩] ∧
    (∀ S l U, reports [threeParles "1234" "1234" "0199"] S l U =
      reports [threeParles "3412" "3412" "0199"] S l U) ∧
    ∀ S l U, slipReports false "12*34*56-9\n12-5" S l U =
      slipReports false "56*12*34-9\n12-5" S l U := by
  have hrespelled : Respelled (threeParles "1234" "1234" "0199")
      (threeParles "3412" "3412" "0199") :=
    ⟨rfl, rfl, rfl, .cons (.inr (by decide)) (.cons (.inr (by decide)) (.cons (.inl rfl) .nil))⟩
  have hperm : ["12".toList, "34".toList, "56".toList].Perm
      ["56".toList, "12".toList, "34".toList] := by decide
  have hreordered : List.Forall₂ Slip.Dash.Reordered
      (Text.lines "12*34*56-9\n12-5".toList) (Text.lines "56*12*34-9\n12-5".toList) := by
    -- The line with stars is put together from its tokens, as the relation wants it.
    have hlines : Text.lines "12*34*56-9\n12-5".toList =
        [Slip.Dash.starred ["12".toList, "34".toList, "56".toList] "9".toList, "12-5".toList] := by
      decide +kernel
    have hlines' : Text.lines "56*12*34-9\n12-5".toList =
        [Slip.Dash.starred ["56".toList, "12".toList, "34".toList] "9".toList, "12-5".toList] := by
      decide +kernel
    rw [hlines, hlines']
    exact .cons (.starred hperm (by decide) (by decide) _) (.cons (.same _) .nil)
  have hmain := reports_respelled hrespelled false hreordered
  exact ⟨hrespelled, by decide +kernel, by decide +kernel, hmain.1 (by decide), hmain.2.2.1⟩

/-- **One number in both spellings escapes its limit:** `1234` twice is reported, `1234` and `3412`
are not, and neither is a line with stars in the order that spells the pair in both ways. -/
theorem not_reported_in_both_spellings :
    Respelled (threeParles "1234" "1234" "0199") (threeParles "1234" "3412" "0199") ∧
    violations [threeParles "1234" "1234" "0199"] ["s1"] (limitOfParle "1234") [] =
      .ok [⟨"1234", .parle, "s1", .ofInt 8, .zero false, 10⟩] ∧
    violations [threeParles "1234" "3412" "0199"] ["s1"] (limitOfParle "1234") [] = .ok [] ∧
    ["12".toList, "12".toList, "34".toList].Perm ["12".toList, "34".toList, "12".toList] ∧
    violations ((Slip.read (.dash false) "12*12*34-5").instructions.map fun i => i.toWager)
        ["s1"] (limitOfParle "1234") [] =
      .ok [⟨"1234", .parle, "s1", .ofInt 8, .zero false, 10⟩] ∧
    violations ((Slip.read (.dash false) "12*34*12-5").instructions.map fun i => i.toWager)
        ["s1"] (limitOfParle "1234") [] = .ok [] := by
  refine ⟨⟨rfl, rfl, rfl, .cons (.inl rfl) (.cons (.inr (by decide)) (.cons (.inl rfl) .nil))⟩,
    by decide +kernel, by decide +kernel, by decide, by decide +kernel, by decide +kernel⟩

end Exposure
end Lottery
