/-
# What the limits guarantee

Each wager of a slip is judged by itself, by what was staked before the slip.  So
a slip that is not refused may still take a number beyond its limit, and
`overruns` has one slip for each way:

| slip | beyond the limit because |
| --- | --- |
| `12-5` twice | each line is judged without the other |
| `3459 5934-5` | each spelling is judged without the other |
| `12 12-16` after 0.01 | 0.01 + 16 + 16 is rounded twice, 0.01 + 32 once |
| `12-5` after nan | nothing is beyond a limit in that order |
| `34` for 10^309 | no double is the stake, and usage has no value |

`usage_le_limit` says what holds: a number that stands once in the instructions
that are booked keeps its limit, and so does one that a single instruction
repeats, unless a sum is rounded.  Where `k` of them stake on it, the usage
grows by at most `k` times what the limit had left.  Whole amounts up to `2^53`
are never rounded (`unrounded_of_isWhole`).

The check is `check_instruction_limits`, against the usage that `usage_from_plays`
makes of the plays so far.
-/

import Lottery.Proofs.Binary64.Whole
import Lottery.Proofs.Exposure.Judging

namespace Lottery
namespace Exposure

variable {ws : List Wager} {S : List String} {l : Limits} {U : Amounts} {r : Risk}
  {x : Binary64}

/-! ### What is booked -/

/-- No sum is rounded where wagers stake on a risk: neither when one of them is judged nor when
their stakes are added one after the other. -/
structure Unrounded (used : Binary64) (r : Risk) (ws : List Wager) : Prop where
  judged : ∀ w ∈ ws, used.AddsUp [w.each * r.times w]
  booked : used.AddsUp (r.stakes ws)

/-- Nothing is rounded where a whole amount and the stakes on top of it come to no more than
`2^53`. -/
theorem unrounded_of_isWhole {used : Binary64} {n : Nat} (hused : used.IsWhole n)
    (h : n + (r.stakes ws).sum ≤ 2 ^ 53) : Unrounded used r ws where
  judged w hw := by
    have hle := (Risk.replicate_sublist_stakes (r := r) hw).sum_le_sum fun _ _ => Nat.zero_le _
    rw [List.sum_replicate_nat, Nat.mul_comm] at hle
    refine hused.addsUp ?_
    rw [List.sum_singleton]
    omega
  booked := hused.addsUp h

/-- What is staked grew by at most `k` times what a limit had left. -/
def GrewWithin (k : Nat) (limit used total : Binary64) : Prop :=
  ∃ a b c : Int, used.place? = some a ∧ limit.place? = some b ∧ total.place? = some c ∧
    c - a ≤ k * (b - a)

/-- Where one wager takes no more than there was room for, the limit is kept. -/
theorem GrewWithin.le {limit used total : Binary64} (h : GrewWithin 1 limit used total) :
    total.le limit = true := by
  obtain ⟨a, b, c, _, hb, hc, h⟩ := h
  exact Binary64.le_eq_true_iff.2 ⟨c, b, hc, hb, by omega⟩

/-- Stakes that have room one by one have as much room for each of them together. -/
theorem sum_stakes_le {room : Int} (h : ∀ w ∈ ws, r.times w ≠ 0 →
      ((w.each * r.times w : Nat) : Int) * Binary64.perWhole ≤ room) :
    ((r.stakes ws).sum : Int) * Binary64.perWhole ≤
      ((ws.countP fun w => r.times w ≠ 0 : Nat) : Int) * room := by
  induction ws with
  | nil => simp [Risk.stakes]
  | cons w ws ih =>
    have hw := h w List.mem_cons_self
    have hws := ih fun v hv => h v (List.mem_cons_of_mem w hv)
    rw [Risk.stakes_cons, List.sum_append, List.sum_replicate_nat, List.countP_cons,
      Nat.mul_comm, Int.natCast_add, Int.add_mul]
    -- A wager that does not stake on the risk adds no stake and takes no room.
    by_cases hr : r.times w = 0
    · simpa [hr] using hws
    · have hone : (if decide (r.times w ≠ 0) = true then 1 else 0) = 1 := by simp [hr]
      rw [hone, Int.natCast_add, Int.add_mul]
      have := hw hr
      omega

/-- A wager that stakes on a risk is of its play type. -/
theorem Risk.playType_eq_of_times_ne_zero {s n : String} {t : PlayType} {w : Wager}
    (h : (ofNumber s t n).times w ≠ 0) : w.playType = t := by
  obtain ⟨m, _, hm⟩ := List.countP_pos_iff.1 (Nat.pos_of_ne_zero h)
  exact (ofNumber_beq_iff.1 hm).2.1.symm

section Booked

variable {bs : List Wager} (hv : violations ws S l U = .ok []) (hbs : ∀ w ∈ bs, w ∈ ws)
  (hS : r.schedule ∈ S) (hx : ∀ w ∈ bs, r.times w ≠ 0 → l.effective? w.playType r = some x)
  (hlimit : x ≠ .nan) (hused : U.get r ≠ .nan)
include hv hbs hS hx hlimit hused

/-- A stake that is the only one on its risk keeps the limit. -/
theorem le_of_length_stakes {w : Wager} (hw : w ∈ bs) (hr : r.times w ≠ 0)
    (hfin : (Binary64.ofInt w.each).isFinite = true) (hlen : (r.stakes bs).length = 1) :
    (((r.stakes bs).map fun n : Nat => Binary64.ofInt n).foldl Binary64.add (U.get r)).le x =
      true := by
  obtain ⟨honce, hstakes⟩ := Risk.stakes_eq_singleton hw hr hlen
  have hlt := lt_eq_false_of_violations_eq_nil hv (hbs w hw) hS hr
    (Risk.spelledOnce_of_times_eq_one honce) (hx w hw hr)
  rw [honce, Nat.mul_one] at hlt
  rw [hstakes]
  exact Binary64.le_of_not_lt (Binary64.add_ne_nan hused hfin) hlimit hlt

/-- Wagers whose sums are not rounded each take at most what the limit had left. -/
theorem grewWithin_of_unrounded (hone : ∀ w ∈ bs, r.SpelledOnce w)
    (hun : Unrounded (U.get r) r bs) :
    GrewWithin (bs.countP fun w => r.times w ≠ 0) x (U.get r)
      (((r.stakes bs).map fun n : Nat => Binary64.ofInt n).foldl Binary64.add (U.get r)) := by
  obtain ⟨a, ha⟩ := Binary64.exists_place? hused
  obtain ⟨b, hb⟩ := Binary64.exists_place? hlimit
  refine ⟨a, b, _, ha, hb, hun.booked.place?_foldl ha, ?_⟩
  -- The check judged each wager with what was used before, so each stake fits into the room that
  -- was there.
  have hroom : ∀ w ∈ bs, r.times w ≠ 0 →
      ((w.each * r.times w : Nat) : Int) * Binary64.perWhole ≤ b - a := by
    intro w hw hr
    have hsum := (hun.judged w hw).place?_add ha
    have hlt := lt_eq_false_of_violations_eq_nil hv (hbs w hw) hS hr (hone w hw) (hx w hw hr)
    have hle := (Binary64.lt_eq_false_iff hb hsum).1 hlt
    omega
  have := sum_stakes_le hroom
  omega

end Booked

/-! ### Limits that are exceeded all the same -/

/-- All limits are above zero. -/
def Limits.Positive (l : Limits) : Prop :=
  (∀ e ∈ l.numbers, (Binary64.zero false).lt e.2 = true) ∧
    ∀ e ∈ l.playTypes, (Binary64.zero false).lt e.2 = true

/-- Limits are looked at one by one. -/
instance instDecidablePositive (l : Limits) : Decidable l.Positive :=
  inferInstanceAs (Decidable (_ ∧ _))

/-- Every number of some instructions is within its limit in some schedules. -/
def Amounts.Keeps (a : Amounts) (l : Limits) (S : List String) (is : List Slip.Instruction) :
    Prop :=
  ∀ i ∈ is, ∀ n ∈ i.numbers, ∀ s ∈ S, ∀ x ∈ l.effective? i.playType (.ofNumber s i.playType n),
    (a.get (.ofNumber s i.playType n)).le x = true

/-- So are the numbers of instructions, in all schedules. -/
instance instDecidableKeeps (a : Amounts) (l : Limits) (S : List String)
    (is : List Slip.Instruction) : Decidable (a.Keeps l S is) :=
  inferInstanceAs (Decidable (∀ i ∈ is, ∀ n ∈ i.numbers, ∀ s ∈ S,
    ∀ x ∈ l.effective? i.playType (.ofNumber s i.playType n),
      (a.get (.ofNumber s i.playType n)).le x = true))

/-- A slip is not refused under positive limits, and with its plays the usage does not keep
them. -/
structure Overrun (slip : BetSlip) (plays : List Play) (l : Limits) (S : List String) : Prop where
  nodup : S.Nodup
  positive : l.Positive
  notRefused : ∃ U, usage plays = .ok U ∧
    violations ((Slip.readValue slip.grammar slip.text).instructions.map fun i => i.toWager)
      S l U = .ok []
  exceeded : ¬ ∃ U, usage (plays ++ Book.playsOf slip (S.map Value.text) (plays.length + 1)
      (Slip.readValue slip.grammar slip.text).instructions) = .ok U ∧
    U.Keeps l S (Slip.readValue slip.grammar slip.text).instructions

/-- An overrun by its parts, each of which can be computed for a slip that is given. -/
theorem overrun_iff {slip : BetSlip} {plays : List Play} : Overrun slip plays l S ↔
    S.Nodup ∧ l.Positive ∧
      (∃ U, usage plays = .ok U ∧
        violations ((Slip.readValue slip.grammar slip.text).instructions.map fun i => i.toWager)
          S l U = .ok []) ∧
      ¬ ∃ U, usage (plays ++ Book.playsOf slip (S.map Value.text) (plays.length + 1)
          (Slip.readValue slip.grammar slip.text).instructions) = .ok U ∧
        U.Keeps l S (Slip.readValue slip.grammar slip.text).instructions :=
  ⟨fun h => ⟨h.nodup, h.positive, h.notRefused, h.exceeded⟩,
    fun ⟨hn, hp, hr, he⟩ => ⟨hn, hp, hr, he⟩⟩

/-- So whether a slip overruns is decidable. -/
instance instDecidableOverrun (slip : BetSlip) (plays : List Play) (l : Limits) (S : List String) :
    Decidable (Overrun slip plays l S) :=
  decidable_of_iff _ overrun_iff.symm

/-- A slip with dashes for one schedule. -/
def plainSlip (text : String) : BetSlip :=
  ⟨.dash false, .text text, .list [.text "s1"], .text "d1", .null, .null, .null⟩

/-- A play of that schedule on the number 12. -/
def playOf (amount : Value) : Play :=
  ⟨.text "fijo", .text "12", amount, .text "s1", .text "d1", .null, .null, .null, .null, .text "p1"⟩

/-- A limit on the number 12. -/
def limitOf (x : Binary64) : Limits :=
  ⟨[(.ofNumber "s1" .fijo "12", x)], []⟩

/-- A slip of two lines, the second for a stake of `10^309` on the number 34. -/
def longSlip : BetSlip :=
  plainSlip (String.ofList
    (['1', '2', '-', '5', '\n', '3', '4', '-', '1'] ++ List.replicate 309 '0'))

/-- The two lines of that slip, as they are read. -/
theorem instructions_longSlip :
    (Slip.readValue longSlip.grammar longSlip.text).instructions =
      [⟨⟨.fijo, ["12"], 5, 5, none⟩, 1, []⟩,
        ⟨⟨.fijo, ["34"], 10 ^ 309, 10 ^ 309, none⟩, 2, []⟩] := by
  simp only [longSlip, plainSlip, Slip.readValue, Slip.read, String.toList_ofList]
  decide +kernel

/-- **A slip that is not refused may exceed a limit.**  It may stake on a number on two lines, or
in two spellings; doubles may round its stakes, be no number, or not reach them. -/
theorem overruns :
    Overrun (plainSlip "12-5\n12-5") [] (limitOf (.ofInt 8)) ["s1"] ∧
    Overrun (plainSlip "3459 5934-5") [] ⟨[], [("parle", .ofInt 8)]⟩ ["s1"] ∧
    Overrun (plainSlip "12 12-16") [playOf (.text "0.01")] (limitOf (.ofHundredths false 3201))
      ["s1"] ∧
    Overrun (plainSlip "12-5") [playOf (.text "nan")] (limitOf (.ofInt 8)) ["s1"] ∧
    Overrun longSlip [] (limitOf (.ofInt 8)) ["s1"] := by
  refine ⟨by decide +kernel, by decide +kernel, by decide +kernel, by decide +kernel, ?_⟩
  rw [overrun_iff, instructions_longSlip]
  decide +kernel

/-! ### Limits that are kept -/

section NotRefused

variable {slip : BetSlip} {plays : List Play} {J : List Slip.Instruction} {k : Nat}
  (hU : usage plays = .ok U) (hS : S.Nodup)
  (hv : violations ((Slip.readValue slip.grammar slip.text).instructions.map
    fun j => j.toWager) S l U = .ok [])
  (hJ : J.Sublist (Slip.readValue slip.grammar slip.text).instructions)
include hU hS hv hJ

/-- What becomes of one limit when some of the instructions that were judged are booked: the two
ways in which its number may stand there. -/
theorem get_usage_within {i : Slip.Instruction} {n s : String} (hi : i ∈ J) (hn : n ∈ i.numbers)
    (hs : s ∈ S) (hr : r = .ofNumber s i.playType n)
    (hx : l.effective? i.playType r = some x) (hlimit : x ≠ .nan) (hused : U.get r ≠ .nan)
    {U' : Amounts}
    (hU' : usage (plays ++ Book.playsOf slip (S.map Value.text) k J) = .ok U') :
    ((r.stakes (J.map fun j => j.toWager)).length = 1 → (U'.get r).le x = true) ∧
      ((∀ j ∈ J, r.SpelledOnce j.toWager) → Unrounded (U.get r) r (J.map fun j => j.toWager) →
        GrewWithin (J.countP fun j => r.times j.toWager ≠ 0) x (U.get r) (U'.get r) ∧
        ((J.countP fun j => r.times j.toWager ≠ 0) = 1 → (U'.get r).le x = true)) := by
  have hmemJ : ∀ j ∈ J, j ∈ (Slip.readValue slip.grammar slip.text).instructions :=
    fun j hj => hJ.subset hj
  have hsched : r.schedule ∈ S := by
    rw [hr]
    exact hs
  have htimes : r.times i.toWager ≠ 0 := by
    rw [hr]
    exact Nat.pos_iff_ne_zero.1 (List.countP_pos_iff.2 ⟨n, hn, Risk.ofNumber_beq_self _ _ _⟩)
  have hmem : ∀ w ∈ J.map fun j => j.toWager,
      w ∈ (Slip.readValue slip.grammar slip.text).instructions.map fun j => j.toWager :=
    fun w hw => (hJ.map _).subset hw
  -- The risk is of one play type, so each instruction that stakes on it has the same limit.
  have hxw : ∀ w ∈ J.map fun j => j.toWager, r.times w ≠ 0 →
      l.effective? w.playType r = some x := by
    intro w _ hw
    subst hr
    rw [Risk.playType_eq_of_times_ne_zero hw]
    exact hx
  have hfin := (exists_usage_append_playsOf_iff hmemJ hU (List.ne_nil_of_mem hs)).1 ⟨U', hU'⟩
  rw [get_usage_append_playsOf hmemJ hU hS hU' hsched]
  constructor
  · exact le_of_length_stakes hv hmem hsched hxw hlimit hused (List.mem_map.2 ⟨i, hi, rfl⟩) htimes
      (hfin i hi)
  · intro hone hun
    have hones : ∀ w ∈ J.map fun j => j.toWager, r.SpelledOnce w := by
      intro w hw
      obtain ⟨j, hj, rfl⟩ := List.mem_map.1 hw
      exact hone j hj
    have hgrew := grewWithin_of_unrounded hv hmem hsched hxw hlimit hused hones hun
    rw [List.countP_map, Function.comp_def] at hgrew
    exact ⟨hgrew, fun hk => (hk ▸ hgrew).le⟩

/-- **The limits of a slip that is not refused.**  Some of its instructions, or all, are booked in
all schedules that it was judged for.  If there is one, the usage has a value exactly if every
stake is a double; in no schedule nothing is booked.  A number with a limit keeps it if it stands
once in these instructions.  If it stands there more often, in one spelling for each instruction,
each of them adds at most what the limit had left, so it keeps the limit if only one has it,
unless a sum is rounded. -/
theorem usage_le_limit :
    (S ≠ [] → ((∃ U', usage (plays ++ Book.playsOf slip (S.map Value.text) k J) = .ok U') ↔
      ∀ j ∈ J, (Binary64.ofInt j.each).isFinite = true)) ∧
    usage (plays ++ Book.playsOf slip [] k J) = .ok U ∧
    ∀ U', usage (plays ++ Book.playsOf slip (S.map Value.text) k J) = .ok U' →
      ∀ i ∈ J, ∀ n ∈ i.numbers, ∀ s ∈ S, ∀ r, r = Risk.ofNumber s i.playType n →
      ∀ x, l.effective? i.playType r = some x → x ≠ .nan → U.get r ≠ .nan →
        ((r.stakes (J.map fun j => j.toWager)).length = 1 → (U'.get r).le x = true) ∧
        ((∀ j ∈ J, r.SpelledOnce j.toWager) → Unrounded (U.get r) r (J.map fun j => j.toWager) →
          GrewWithin (J.countP fun j => r.times j.toWager ≠ 0) x (U.get r) (U'.get r) ∧
          ((J.countP fun j => r.times j.toWager ≠ 0) = 1 → (U'.get r).le x = true)) := by
  refine ⟨fun hne => exists_usage_append_playsOf_iff (fun j hj => hJ.subset hj) hU hne, ?_, ?_⟩
  · rw [Book.playsOf_nil, List.append_nil]
    exact hU
  · intro U' hU' i hi n hn s hs r hr x hx hlimit hused
    exact get_usage_within hU hS hv hJ hi hn hs hr hx hlimit hused hU'

end NotRefused

/-- A slip with a number that is repeated, and a second line. -/
def repeatingSlip : BetSlip :=
  plainSlip "12 12 34-10\n3412-5"

/-- Two lines in two schedules: ten is staked twice on a number that has eight of twenty-eight. -/
theorem usage_le_limit_repeated :
    ∃ U, usage ([playOf (.int 8)] ++ Book.playsOf repeatingSlip [.text "s1", .text "s2"] 2
        (Slip.readValue repeatingSlip.grammar repeatingSlip.text).instructions) = .ok U ∧
      (U.get (.ofNumber "s1" .fijo "12")).le (.ofInt 28) = true := by
  -- 8 are used and the limit is 28, so the 20 of the one instruction fit exactly.
  have hbefore : ∃ U, usage [playOf (.int 8)] = .ok U ∧
      violations ((Slip.readValue repeatingSlip.grammar repeatingSlip.text).instructions.map
        fun j => j.toWager) ["s1", "s2"] (limitOf (.ofInt 28)) U = .ok [] ∧
      U.get (.ofNumber "s1" .fijo "12") = .ofInt 8 := by
    decide +kernel
  obtain ⟨U, hU, hv, hget⟩ := hbefore
  obtain ⟨hvalue, _, hbound⟩ := usage_le_limit (k := 2) hU (by decide) hv (.refl _)
  obtain ⟨U', hU'⟩ := (hvalue (by decide)).2 (by decide +kernel)
  -- Whole amounts of this size are not rounded, which is what the bound asks for.
  have hwhole : (U.get (.ofNumber "s1" .fijo "12")).IsWhole (8 : Nat) := by
    rw [hget]
    exact Binary64.isWhole_ofInt (by decide)
  have hstaked := hbound U' hU' ⟨⟨.fijo, ["12", "12", "34"], 10, 30, none⟩, 1, ["12"]⟩
    (by decide +kernel) "12" (by decide) "s1" (by decide) _ rfl (.ofInt 28) (by decide +kernel)
    (by decide +kernel) (by rw [hget]; decide +kernel)
  exact ⟨U', hU', (hstaked.2 (by decide +kernel)
    (unrounded_of_isWhole hwhole (by decide +kernel))).2 (by decide +kernel)⟩

end Exposure
end Lottery
