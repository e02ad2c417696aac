/-
# What the plays of a slip add to the usage

A slip that is taken becomes one play for each instruction and schedule.  A risk
of one of the schedules is then staked on as often as its number stands in the
instructions, whichever way a parle is spelled (`Risk.stakes`), and these stakes
are added to what was staked on it before (`get_usage_append_playsOf`).

Usage is what `usage_from_plays` makes of the plays, and a risk is a key of
`limit_key`.
-/

import Lottery.Book
import Lottery.Proofs.Exposure.Usage
import Lottery.Proofs.Numbers
import Lottery.Proofs.Slip.WellFormed

namespace Lottery
namespace Exposure

/-- How often a wager stakes on a risk. -/
def Risk.times (r : Risk) (w : Wager) : Nat :=
  w.numbers.countP fun n => r == ofNumber r.schedule w.playType n

/-- The stakes that wagers put on a risk, in order. -/
def Risk.stakes (r : Risk) (ws : List Wager) : List Nat :=
  ws.flatMap fun w => List.replicate (r.times w) w.each

namespace Risk

variable {r : Risk} {w : Wager} {ws : List Wager}

/-- A wager puts its stakes in front of those of the others, one for each time that the risk comes
in it. -/
theorem stakes_cons (r : Risk) (w : Wager) (ws : List Wager) :
    r.stakes (w :: ws) = List.replicate (r.times w) w.each ++ r.stakes ws :=
  List.flatMap_cons

/-- What a wager stakes is among what all of them do. -/
theorem replicate_sublist_stakes (h : w ∈ ws) :
    (List.replicate (r.times w) w.each).Sublist (r.stakes ws) := by
  rw [stakes, List.flatMap_def]
  exact List.sublist_flatten_of_mem (List.mem_map.2 ⟨w, h, rfl⟩)

/-- A risk that is staked on once is so by the wager that stakes on it. -/
theorem stakes_eq_singleton (hw : w ∈ ws) (hr : r.times w ≠ 0) (h : (r.stakes ws).length = 1) :
    r.times w = 1 ∧ r.stakes ws = [w.each] := by
  have hsub := replicate_sublist_stakes (r := r) hw
  have hle := hsub.length_le
  rw [List.length_replicate, h] at hle
  have hone : r.times w = 1 := by omega
  rw [hone] at hsub
  exact ⟨hone, (hsub.eq_of_length h.symm).symm⟩

end Risk

/-! ### The stakes of one play -/

/-- A play on numbers of a play type stakes on each of them, if its amount is a double. -/
theorem stakesOf_eq {p : Play} {s : String} {t : PlayType} {ns : List String} {a : Int}
    (hs : p.scheduleId = .text s) (ht : p.playType = .text t.name)
    (hn : p.numbers = .text (String.intercalate "," ns)) (ha : p.amount = .int a)
    (hns : ∀ n ∈ ns, t.IsNumber n) :
    stakesOf p = ns.mapM fun n => (Value.doubleOfInt a).map fun x => (Risk.ofNumber s t n, x) := by
  -- Numbers of a play type are digits, so they are read back from between the commas.
  have hread : Numbers.ofText (String.intercalate "," ns) = ns :=
    Numbers.ofText_intercalate (fun n hmem => (hns n hmem).toList_ne_nil)
      fun n hmem => (hns n hmem).2
  have hstake : stakeOn p = fun n =>
      (Value.doubleOfInt a).map fun x => (Risk.ofNumber s t n, x) := by
    funext n
    rw [stakeOn, hs, ht, ha, Risk.of_text, Value.amount_int]
    cases Value.doubleOfInt a <;> rfl
  rw [stakesOf, hn, Numbers.ofValue_text, hread, hstake]
  rfl

/-! ### The stakes of all plays of a slip -/

variable {slip : BetSlip} {S : List String} {J : List Slip.Instruction} {k : Nat}

/-- What an instruction stakes in a schedule. -/
def stakesIn (e : Slip.Instruction × String) : List (Risk × Binary64) :=
  e.1.numbers.map fun n => (Risk.ofNumber e.2 e.1.playType n, Binary64.ofInt e.1.each)

/-- The play of an instruction in a schedule. -/
theorem exists_mem_playsOf (slip : BetSlip) (k : Nat) {j : Slip.Instruction} {s : String}
    (hj : j ∈ J) (hs : s ∈ S) :
    ∃ p ∈ Book.playsOf slip (S.map Value.text) k J, p.scheduleId = .text s ∧
      p.playType = .text j.playType.name ∧
      p.numbers = .text (String.intercalate "," j.numbers) ∧ p.amount = .int j.each := by
  have he : (j, Value.text s) ∈ J.flatMap fun j => (S.map Value.text).map fun v => (j, v) :=
    List.mem_flatMap.2 ⟨j, hj, List.mem_map.2 ⟨_, List.mem_map.2 ⟨s, hs, rfl⟩, rfl⟩⟩
  -- The play is the one at the place of the pair.
  obtain ⟨m, hm, he⟩ := List.getElem_of_mem he
  refine ⟨_, List.mem_mapIdx.2 ⟨m, hm, rfl⟩, ?_⟩
  rw [he]
  exact ⟨rfl, rfl, rfl, rfl⟩

/-- The plays of a slip stake what its instructions do, in all schedules, if all amounts are
doubles. -/
theorem mapM_stakesOf_playsOf (hJ : ∀ j ∈ J, ∀ n ∈ j.numbers, j.playType.IsNumber n)
    (hfin : ∀ j ∈ J, (Binary64.ofInt j.each).isFinite = true) :
    (Book.playsOf slip (S.map Value.text) k J).mapM stakesOf =
      .ok ((J.flatMap fun j => S.map fun s => (j, s)).map stakesIn) := by
  -- The plays go through the instructions and, for each of them, the schedules.
  have hpairs : (J.flatMap fun j => (S.map Value.text).map fun v => (j, v)) =
      (J.flatMap fun j => S.map fun s => (j, s)).map fun e => (e.1, Value.text e.2) := by
    simp only [List.map_flatMap, List.map_map]
    rfl
  rw [Book.playsOf, hpairs]
  refine mapM_mapIdx_eq_ok fun m e he => ?_
  obtain ⟨j, hj, hje⟩ := List.mem_flatMap.1 he
  obtain ⟨s, _, rfl⟩ := List.mem_map.1 hje
  rw [stakesOf_eq rfl rfl rfl rfl (hJ j hj)]
  refine mapM_eq_ok fun n _ => ?_
  rw [Value.doubleOfInt_eq_ok_iff.2 ⟨hfin j hj, rfl⟩]
  rfl

/-- Plays whose stakes are known are for amounts that are doubles. -/
theorem isFinite_of_mapM_stakesOf {ss : List (List (Risk × Binary64))}
    (h : (Book.playsOf slip (S.map Value.text) k J).mapM stakesOf = .ok ss) (hS : S ≠ [])
    {j : Slip.Instruction} (hj : j ∈ J) (hne : j.numbers ≠ [])
    (hnum : ∀ n ∈ j.numbers, j.playType.IsNumber n) :
    (Binary64.ofInt j.each).isFinite = true := by
  -- One schedule and one number are enough: there the stake is made a double.
  obtain ⟨s, hs⟩ := List.exists_mem_of_ne_nil S hS
  obtain ⟨n, hn⟩ := List.exists_mem_of_ne_nil j.numbers hne
  obtain ⟨p, hp, hps, hpt, hpn, hpa⟩ := exists_mem_playsOf slip k hj hs
  obtain ⟨es, _, hes⟩ := exists_of_mapM_eq_ok h p hp
  rw [stakesOf_eq hps hpt hpn hpa hnum] at hes
  obtain ⟨e, _, he⟩ := exists_of_mapM_eq_ok hes n hn
  cases hx : Value.doubleOfInt j.each with
  | error f =>
    rw [hx] at he
    cases he
  | ok x => exact (Value.doubleOfInt_eq_ok_iff.1 hx).1

/-- The risks that instructions stake on are those of their numbers in the schedules. -/
theorem mem_keys_stakesIn {r : Risk} :
    r ∈ ((J.flatMap fun j => S.map fun s => (j, s)).map stakesIn).flatten.map Prod.fst ↔
      ∃ s ∈ S, ∃ j ∈ J, ∃ n ∈ j.numbers, Risk.ofNumber s j.playType n = r := by
  simp only [List.mem_map, List.mem_flatten, List.mem_flatMap, stakesIn]
  constructor
  · rintro ⟨_, ⟨_, ⟨_, ⟨j, hj, s, hs, rfl⟩, rfl⟩, he⟩, rfl⟩
    obtain ⟨n, hn, rfl⟩ := List.mem_map.1 he
    exact ⟨s, hs, j, hj, n, hn, rfl⟩
  · rintro ⟨s, hs, j, hj, n, hn, rfl⟩
    exact ⟨_, ⟨_, ⟨_, ⟨j, hj, s, hs, rfl⟩, rfl⟩, List.mem_map.2 ⟨n, hn, rfl⟩⟩, rfl⟩

/-! ### The stakes on one risk -/

/-- Where one element has something and no other has, only that one counts. -/
theorem flatMap_eq_of_nodup {α β : Type} {l : List α} {a : α} {f : α → List β} (hl : l.Nodup)
    (ha : a ∈ l) (hf : ∀ b ∈ l, b ≠ a → f b = []) : l.flatMap f = f a := by
  induction l with
  | nil => cases ha
  | cons b l ih =>
    obtain ⟨hb, hl⟩ := List.nodup_cons.1 hl
    rw [List.flatMap_cons]
    -- Up to `a` everything is empty, and behind it too, as `a` does not come again.
    by_cases hba : b = a
    · subst hba
      have hrest : l.flatMap f = [] := by
        rw [List.flatMap_eq_nil_iff]
        exact fun c hc => hf c (List.mem_cons_of_mem b hc) fun he => hb (he ▸ hc)
      rw [hrest, List.append_nil]
    · rw [hf b List.mem_cons_self hba, List.nil_append]
      exact ih hl ((List.mem_cons.1 ha).resolve_left fun he => hba he.symm)
        fun c hc => hf c (List.mem_cons_of_mem b hc)

/-- What an instruction stakes on a risk, in all schedules: those of other schedules are other
risks. -/
theorem filter_stakesIn {r : Risk} (hS : S.Nodup) (hr : r.schedule ∈ S) (j : Slip.Instruction) :
    (((S.map fun s => stakesIn (j, s)).flatten.filter fun e => r == e.1).map Prod.snd) =
      List.replicate (r.times j.toWager) (Binary64.ofInt j.each) := by
  have hone : ∀ s, ((stakesIn (j, s)).filter fun e => r == e.1).map Prod.snd =
      List.replicate (j.numbers.countP fun n => r == Risk.ofNumber s j.playType n)
        (Binary64.ofInt j.each) := by
    intro s
    rw [stakesIn, List.filter_map, List.map_map, List.countP_eq_length_filter, ← List.map_const']
    rfl
  -- The schedules differ, so only that of the risk has any stakes on it.
  rw [← List.flatMap_def, List.filter_flatMap, List.map_flatMap]
  simp only [hone]
  refine flatMap_eq_of_nodup hS hr fun s _ hne => ?_
  have hzero : (j.numbers.countP fun n => r == Risk.ofNumber s j.playType n) = 0 := by
    rw [List.countP_eq_zero]
    intro n _ he
    exact hne (Risk.beq_iff.1 he).1.symm
  rw [hzero, List.replicate_zero]

/-- The stakes of all instructions on one risk, in order. -/
theorem filter_map_stakesIn {r : Risk} (hS : S.Nodup) (hr : r.schedule ∈ S)
    (J : List Slip.Instruction) :
    ((((J.flatMap fun j => S.map fun s => (j, s)).map stakesIn).flatten.filter
        fun e => r == e.1).map Prod.snd) =
      (r.stakes (J.map fun j => j.toWager)).map fun n : Nat => Binary64.ofInt n := by
  -- Instruction by instruction, each of which is booked once for every schedule.
  induction J with
  | nil => rfl
  | cons j J ih =>
    rw [List.flatMap_cons, List.map_append, List.flatten_append, List.filter_append,
      List.map_append, ih, List.map_map, List.map_cons, Risk.stakes_cons, List.map_append,
      List.map_replicate, ← filter_stakesIn hS hr j]
    rfl

/-! ### The usage after a slip -/

section Slip

variable {plays : List Play} {U : Amounts}
  (hJ : ∀ j ∈ J, j ∈ (Slip.readValue slip.grammar slip.text).instructions)
include hJ

/-- The numbers of a slip are numbers of their play types. -/
theorem isNumber_of_mem_slip : ∀ j ∈ J, ∀ n ∈ j.numbers, j.playType.IsNumber n := by
  intro j hj
  obtain ⟨shared, hwf⟩ := Slip.wellFormed_of_mem_readValue (hJ j hj)
  exact hwf.isNumber

variable (hU : usage plays = .ok U)
include hU

/-- The usage has a value after a slip exactly if all its stakes are doubles. -/
theorem exists_usage_append_playsOf_iff (hS : S ≠ []) :
    (∃ U', usage (plays ++ Book.playsOf slip (S.map Value.text) k J) = .ok U') ↔
      ∀ j ∈ J, (Binary64.ofInt j.each).isFinite = true := by
  rw [usage_append hU]
  constructor
  · rintro ⟨U', h⟩ j hj
    obtain ⟨shared, hwf⟩ := Slip.wellFormed_of_mem_readValue (hJ j hj)
    -- Usage has a value only if every play is recorded stake by stake.
    cases hss : (Book.playsOf slip (S.map Value.text) k J).mapM stakesOf with
    | error f =>
      rw [hss] at h
      cases h
    | ok ss => exact isFinite_of_mapM_stakesOf hss hS hj hwf.numbers_ne_nil hwf.isNumber
  · intro hfin
    rw [mapM_stakesOf_playsOf (isNumber_of_mem_slip hJ) hfin]
    exact ⟨_, rfl⟩

/-- **A slip adds its stakes.**  After the plays of some of its instructions, each risk of the
schedules has what it had before and then the stakes of these instructions on it. -/
theorem get_usage_append_playsOf {U' : Amounts} (hS : S.Nodup)
    (h : usage (plays ++ Book.playsOf slip (S.map Value.text) k J) = .ok U') {r : Risk}
    (hr : r.schedule ∈ S) :
    U'.get r = ((r.stakes (J.map fun j => j.toWager)).map fun n : Nat => Binary64.ofInt n).foldl
      Binary64.add (U.get r) := by
  have hfin := (exists_usage_append_playsOf_iff hJ hU (List.ne_nil_of_mem hr)).1 ⟨U', h⟩
  rw [usage_append hU, mapM_stakesOf_playsOf (isNumber_of_mem_slip hJ) hfin] at h
  obtain rfl := Except.ok.inj h
  rw [Amounts.get_record, filter_map_stakesIn hS hr]

end Slip

end Exposure
end Lottery
