/-
# Usage is the sum of the recorded stakes

A play that can be recorded is a schedule, a play type, numbers and a stake
(`Record`), and it stakes on the risk of each of its numbers.  Of a risk that no
number has there is no usage.  Of any other the usage is the sum of the stakes on
it, from the left, play by play and in each play number by number
(`usage_eq_sums`).

Numbers of parles count by their canonical spelling alone, so it does not matter
how they are spelled:

| respelled | unchanged |
| --- | --- |
| numbers of plays (`RespelledPlay`) | the usage |
| numbers of rows with limits (`RespelledRow`) | the limits |
| both | the violations of any wagers |

This is `usage_from_plays` without its two loops, and with the key that
`limit_key` gives a number.
-/

import Lottery.Proofs.Exposure.Parles
import Lottery.Proofs.Numbers
import Lottery.Service.Reply

namespace Lottery

namespace Exposure

variable {p p' : Play} {plays plays' : List Play} {k : Risk}

/-! ### Records -/

/-- A play as it is recorded. -/
structure Record where
  schedule : String
  playType : String
  numbers : List String
  stake : Binary64

namespace Record

/-- What a play is recorded as. -/
structure IsOf (r : Record) (p : Play) : Prop where
  schedule : p.scheduleId.written = .ok r.schedule
  playType : p.playType = .text r.playType
  numbers : Numbers.ofValue p.numbers = .ok r.numbers
  stake : p.amount.amount = .ok r.stake

/-- The risk of one of the numbers. -/
def riskOf (r : Record) (number : String) : Risk :=
  .named r.schedule r.playType number

/-- The stakes, number by number. -/
def stakes (r : Record) : List (Risk × Binary64) :=
  r.numbers.map fun n => (r.riskOf n, r.stake)

/-- The stakes on a risk, one for each time that a number of it is listed. -/
def stakesOn (k : Risk) (r : Record) : List Binary64 :=
  (r.numbers.filter fun n => k == r.riskOf n).map fun _ => r.stake

variable {r : Record} {rs : List Record}

/-- The record of a play tells the risk of each of its numbers. -/
theorem IsOf.risk_of (h : r.IsOf p) (n : String) :
    Risk.of p.scheduleId p.playType (.text n) = .ok (r.riskOf n) := by
  rw [h.playType, Risk.of_written h.schedule]
  rfl

/-- It tells its stakes. -/
theorem IsOf.stakesOf (h : r.IsOf p) : stakesOf p = .ok r.stakes := by
  rw [Exposure.stakesOf, h.numbers]
  refine mapM_eq_ok fun n _ => ?_
  rw [stakeOn, h.risk_of, h.stake]
  rfl

/-- Plays use up the stakes of their records. -/
theorem usage_eq_record (h : List.Forall₂ IsOf rs plays) :
    usage plays = .ok (Amounts.record [] (rs.flatMap stakes)) := by
  have hstakes : plays.mapM Exposure.stakesOf = .ok (rs.map stakes) := by
    rw [mapM_eq_ok_iff]
    induction h with
    | nil => rfl
    | cons hr _ ih => rw [List.map_cons, List.map_cons, List.map_cons, hr.stakesOf, ih]
  rw [usage, foldlM_addPlay, hstakes]
  rfl

/-- The stakes of records on one risk, in order. -/
theorem map_snd_filter_flatMap_stakes (k : Risk) (rs : List Record) :
    ((rs.flatMap stakes).filter fun e => k == e.1).map Prod.snd = rs.flatMap (stakesOn k) := by
  rw [List.filter_flatMap, List.map_flatMap]
  refine List.flatMap_congr fun r _ => ?_
  rw [stakes, List.filter_map, List.map_map]
  rfl

/-- The risks that are staked on are those of the numbers of the plays. -/
theorem exists_stake_iff (h : List.Forall₂ IsOf rs plays) :
    (∃ e ∈ rs.flatMap stakes, (k == e.1) = true) ↔
      ∃ p ∈ plays, ∃ ns, Numbers.ofValue p.numbers = .ok ns ∧
        ∃ n ∈ ns, Risk.of p.scheduleId p.playType (.text n) = .ok k := by
  -- Play by play along the records, each of which is that of its own play.
  induction h with
  | nil => simp
  | @cons r p rs plays hr _ ih =>
    have hone : (∃ e ∈ r.stakes, (k == e.1) = true) ↔ ∃ ns, Numbers.ofValue p.numbers = .ok ns ∧
        ∃ n ∈ ns, Risk.of p.scheduleId p.playType (.text n) = .ok k := by
      constructor
      · rintro ⟨e, he, hk⟩
        obtain ⟨n, hn, rfl⟩ := List.mem_map.1 he
        exact ⟨_, hr.numbers, n, hn, (Risk.beq_named_iff.1 hk) ▸ hr.risk_of n⟩
      · rintro ⟨ns, hns, n, hn, hrisk⟩
        obtain rfl := Except.ok.inj (hr.numbers.symm.trans hns)
        obtain rfl := Except.ok.inj ((hr.risk_of n).symm.trans hrisk)
        exact ⟨_, List.mem_map_of_mem hn, Risk.beq_named_iff.2 rfl⟩
    simp only [List.flatMap_cons, List.mem_append, or_and_right, exists_or, hone, ih,
      List.mem_cons, exists_eq_left]

end Record

/-- A play of a named type, with a schedule and numbers that can be written and an amount that is a
double. -/
structure IsRecordable (p : Play) : Prop where
  playType : ∃ t, p.playType = .text t
  schedule : p.scheduleId.hasLongInteger = false
  numbers : p.numbers.hasLongInteger = false
  amount : ∃ x, p.amount.amount = .ok x

/-- Each play whose fields can be read has a record. -/
theorem IsRecordable.exists_record (h : IsRecordable p) : ∃ r : Record, r.IsOf p := by
  obtain ⟨t, ht⟩ := h.playType
  obtain ⟨s, hs⟩ := Value.exists_written h.schedule
  obtain ⟨ns, hns⟩ := Numbers.exists_ofValue h.numbers
  obtain ⟨x, hx⟩ := h.amount
  exact ⟨⟨s, t, ns, x⟩, hs, ht, hns, hx⟩

/-- So do all plays of a list, in order. -/
theorem exists_records (h : ∀ p ∈ plays, IsRecordable p) :
    ∃ rs : List Record, List.Forall₂ Record.IsOf rs plays := by
  induction plays with
  | nil => exact ⟨[], .nil⟩
  | cons p plays ih =>
    obtain ⟨r, hr⟩ := (h p List.mem_cons_self).exists_record
    obtain ⟨rs, hrs⟩ := ih fun q hq => h q (List.mem_cons_of_mem p hq)
    exact ⟨r :: rs, .cons hr hrs⟩

/-! ### Other spellings -/

/-- Two plays that stake the same amount in the same schedule on the same numbers, parles in
whatever spellings. -/
structure RespelledPlay (p p' : Play) : Prop where
  scheduleId : p'.scheduleId = p.scheduleId
  playType : p'.playType = p.playType
  amount : p'.amount = p.amount
  numbers : p'.numbers = p.numbers ∨ p.playType = .text PlayType.parle.name ∧
    ∃ ns ms, Numbers.ofValue p.numbers = .ok ns ∧ Numbers.ofValue p'.numbers = .ok ms ∧
      List.Forall₂ (fun n m => m = n ∨ m = Parle.swapped n) ns ms

/-- **A play with its parles spelled the other way puts the same stakes on the same risks.** -/
theorem RespelledPlay.stakesOf_eq (h : RespelledPlay p p') : stakesOf p' = stakesOf p := by
  have hstake : stakeOn p' = stakeOn p := by
    funext n
    rw [stakeOn, stakeOn, h.scheduleId, h.playType, h.amount]
  -- The numbers are the same, or they are parles whose risks are.
  rcases h.numbers with hnumbers | ⟨ht, ns, ms, hns, hms, hspelled⟩
  · rw [stakesOf, stakesOf, hnumbers, hstake]
  · rw [stakesOf, stakesOf, hns, hms, hstake]
    refine mapM_eq_of_forall₂ (hspelled.imp fun n m hm => ?_)
    rcases hm with rfl | rfl
    · rfl
    · rw [stakeOn, stakeOn, ht, Risk.of_swapped]

/-- **Respelled plays have one usage.** -/
theorem usage_respelled (h : List.Forall₂ RespelledPlay plays plays') :
    usage plays' = usage plays := by
  rw [usage, usage, foldlM_addPlay, foldlM_addPlay,
    mapM_eq_of_forall₂ (h.imp fun _ _ hp => hp.stakesOf_eq)]

/-- Two rows that are the same, or set the same limit on a parle in its two spellings. -/
inductive RespelledRow : Value → Value → Prop where
  | same (row : Value) : RespelledRow row row
  | parle {fields fields' : List (String × Value)} {n : String}
      (hs : Service.textOf fields' "schedule_id" = Service.textOf fields "schedule_id")
      (ht : Service.textOf fields "play_type" = .ok PlayType.parle.name)
      (ht' : Service.textOf fields' "play_type" = .ok PlayType.parle.name)
      (hn : Service.textOf fields "number" = .ok n)
      (hn' : Service.textOf fields' "number" = .ok (Parle.swapped n))
      (hl : Value.get fields' "limit" = Value.get fields "limit") :
      RespelledRow (.object fields) (.object fields')

/-- A limit on a parle is the same limit in either spelling. -/
theorem RespelledRow.limitOf?_eq {row row' : Value} (h : RespelledRow row row') :
    Service.limitOf? row' = Service.limitOf? row := by
  cases h with
  | same row => rfl
  | parle hs ht ht' hn hn' hl =>
    simp only [Service.limitOf?, hs, ht, ht', hn, hn', hl, bind_of_eq_ok rfl, Risk.of_swapped]

/-- Two requests whose rows with limits are the same one by one, but for the spelling of parles. -/
def RespelledLimits (fields fields' : List (String × Value)) : Prop :=
  ∃ rows rows', Service.elementsOf fields "limits" = .ok rows ∧
    Service.elementsOf fields' "limits" = .ok rows' ∧ List.Forall₂ RespelledRow rows rows'

/-- **Respelled rows set the same limits.** -/
theorem numberLimitsOf_respelled {fields fields' : List (String × Value)}
    (h : RespelledLimits fields fields') :
    Service.numberLimitsOf fields' = Service.numberLimitsOf fields := by
  obtain ⟨rows, rows', hrows, hrows', hspelled⟩ := h
  rw [Service.numberLimitsOf, Service.numberLimitsOf, hrows, hrows', bind_of_eq_ok rfl,
    bind_of_eq_ok rfl, mapM_eq_of_forall₂ (hspelled.imp fun _ _ hrow => hrow.limitOf?_eq)]

/-! ### The sums -/

/-- The violations of some wagers under the limits of some rows, after some plays. -/
def violationsAfter (ws : List Wager) (schedules : List String)
    (playTypes : Entries String Binary64) (fields : List (String × Value)) (plays : List Play) :
    Except Fault (List Violation) := do
  let numbers ← Service.numberLimitsOf fields
  let used ← usage plays
  violations ws schedules ⟨numbers, playTypes⟩ used

/-- **Usage is the sum of the recorded stakes.**  It has an entry for each risk that a number of a
play has, and for no other; the entry is the sum of the stakes on that risk, from the left, one for
each place of such a number.  If parles are respelled in the plays, in the rows with limits or in
both, then the usage, the limits and the violations of any wagers remain. -/
theorem usage_eq_sums (h : ∀ p ∈ plays, IsRecordable p) :
    ∃ rs u, List.Forall₂ Record.IsOf rs plays ∧ usage plays = .ok u ∧
      (∀ k, ((u.lookup k).isSome = true ↔
          ∃ p ∈ plays, ∃ ns, Numbers.ofValue p.numbers = .ok ns ∧
            ∃ n ∈ ns, Risk.of p.scheduleId p.playType (.text n) = .ok k) ∧
        ∀ x, u.lookup k = some x → x = Binary64.sum (rs.flatMap (Record.stakesOn k))) ∧
      ∀ plays' fields fields', List.Forall₂ RespelledPlay plays plays' →
        RespelledLimits fields fields' →
          usage plays' = .ok u ∧ Service.numberLimitsOf fields' = Service.numberLimitsOf fields ∧
          ∀ ws schedules playTypes, violationsAfter ws schedules playTypes fields' plays' =
            violationsAfter ws schedules playTypes fields plays := by
  -- The records are what can be summed; the plays are kept for the respelled ones.
  obtain ⟨rs, hrs⟩ := exists_records h
  have husage := Record.usage_eq_record hrs
  refine ⟨rs, _, hrs, husage, fun k => ⟨?_, fun x hx => ?_⟩, ?_⟩
  · rw [Amounts.isSome_lookup_record, Record.exists_stake_iff hrs]
    exact or_iff_right nofun
  · have hget := Amounts.get_record [] (rs.flatMap Record.stakes) k
    rw [Record.map_snd_filter_flatMap_stakes, Amounts.get, hx] at hget
    exact hget
  -- Respelled plays have the same usage and respelled rows the same limits, so the check sees no
  -- difference.
  · intro plays' fields fields' hplays hfields
    have hlimits := numberLimitsOf_respelled hfields
    have hused := usage_respelled hplays
    refine ⟨hused.trans husage, hlimits, fun ws schedules playTypes => ?_⟩
    rw [violationsAfter, violationsAfter, hlimits, hused]

/-- A play on three numbers, one of them twice, and one on some parles. -/
def playsWithParles (parles : Value) : List Play :=
  [⟨.text "fijo", .text "12, 34 ,12", .int 5, .text "s1", .null, .null, .null, .null, .null, .null⟩,
    ⟨.text "parle", parles, .int 2, .text "s1", .null, .null, .null, .null, .null, .null⟩]

/-- The fields of a request with a limit on one parle. -/
def fieldsWithLimit (parle : Value) : List (String × Value) :=
  [("limits", .list [.object [("schedule_id", .text "s1"), ("play_type", .text "parle"),
    ("number", parle), ("limit", .int 6)]])]

/-- A wager on a parle exceeds its limit beside the two stakes on it, however they and the limit are
spelled. -/
theorem usage_eq_sums_respelled :
    (∃ u, usage (playsWithParles (.text "5934,,3459")) = .ok u ∧
      usage (playsWithParles (.list [.text "3459", .int 5934])) = .ok u ∧
      (u.lookup ⟨"s1", .text "parle", .text "3459"⟩).isSome = true) ∧
    violationsAfter [⟨.parle, ["5934"], 5, 5, none⟩] ["s1"] [] (fieldsWithLimit (.text "5934"))
        (playsWithParles (.text "5934,,3459")) =
      .ok [⟨"5934", .parle, "s1", .ofInt 6, .ofInt 4, 5⟩] ∧
    violationsAfter [⟨.parle, ["5934"], 5, 5, none⟩] ["s1"] [] (fieldsWithLimit (.int 3459))
        (playsWithParles (.list [.text "3459", .int 5934])) =
      violationsAfter [⟨.parle, ["5934"], 5, 5, none⟩] ["s1"] [] (fieldsWithLimit (.text "5934"))
        (playsWithParles (.text "5934,,3459")) := by
  have hrecordable : ∀ p ∈ playsWithParles (.text "5934,,3459"), IsRecordable p := by
    intro p hp
    rcases List.mem_pair.1 hp with rfl | rfl
    · exact ⟨⟨_, rfl⟩, rfl, rfl, .ofInt 5, by decide +kernel⟩
    · exact ⟨⟨_, rfl⟩, rfl, rfl, .ofInt 2, by decide +kernel⟩
  -- The second play has its parles in the other spelling, and as a list instead of a text.
  have hparles : ∃ ns ms, Numbers.ofValue (.text "5934,,3459") = .ok ns ∧
      Numbers.ofValue (.list [.text "3459", .int 5934]) = .ok ms ∧
        List.Forall₂ (fun n m => m = n ∨ m = Parle.swapped n) ns ms := by
    refine ⟨["5934", "3459"], ["3459", "5934"], by decide +kernel, by decide +kernel, ?_⟩
    exact .cons (.inr (by decide +kernel)) (.cons (.inr (by decide +kernel)) .nil)
  have hplays : List.Forall₂ RespelledPlay (playsWithParles (.text "5934,,3459"))
      (playsWithParles (.list [.text "3459", .int 5934])) :=
    .cons ⟨rfl, rfl, rfl, .inl rfl⟩ (.cons ⟨rfl, rfl, rfl, .inr ⟨rfl, hparles⟩⟩ .nil)
  have hlimits : RespelledLimits (fieldsWithLimit (.text "5934")) (fieldsWithLimit (.int 3459)) :=
    ⟨_, _, rfl, rfl, .cons (.parle rfl rfl rfl rfl (by decide +kernel) rfl) .nil⟩
  obtain ⟨rs, u, _, husage, hentries, hrespelled⟩ := usage_eq_sums hrecordable
  obtain ⟨hsame, _, hviolations⟩ := hrespelled _ _ _ hplays hlimits
  refine ⟨⟨u, husage, hsame, (hentries _).1.2 ?_⟩, by decide +kernel, hviolations _ _ _⟩
  exact ⟨_, List.mem_cons_of_mem _ List.mem_cons_self, ["5934", "3459"], by decide +kernel, "5934",
    List.mem_cons_self, rfl⟩

end Exposure
end Lottery
