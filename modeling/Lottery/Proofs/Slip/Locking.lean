/-
# What the lock of a slip does

Only a line with `*` asks whether the slip is locked, and only when everything
else about it is right.  With `m` pairs and the amount `a` it comes to

| line | not locked | locked |
| --- | --- | --- |
| rejected for its form or its amount | an error | the same error |
| `a < m` | `a` on each pair, `a * m` in total | an error |
| `m ≤ a` | `a` on each pair, `a * m` in total | `a / m` on each pair, `a` in total |

(`locks_line`).  So on a slip the lock rejects more lines, changes the amounts of
the others with `*` and never raises the sum (`read_locks`).  A number loses its
flag as a duplicate if its other places are all on lines that the lock rejects.

The lock is the argument `is_locked` of `parse_text`, and `_parse_pairs_line` asks
for it.
-/

import Lottery.Proofs.Slip.Accounts

namespace Lottery

/-- What a wager asks for, its amounts aside. -/
def Wager.choice (w : Wager) : PlayType × List String × Option Mode :=
  (w.playType, w.numbers, w.mode)

namespace Slip

variable {k : Nat} {text : String}

/-! ### One line -/

/-- The wagers `ws` of a line or the error `e` when the slip is not locked, and `vs` or `f` when it
is; `starred` tells whether the line has a `*`. -/
inductive LineLocks (starred : Prop) :
    List Wager → Option LineError → List Wager → Option LineError → Prop
  | rejected (e : LineError) : LineLocks starred [] (some e) [] (some e)
  | plain (ws : List Wager) (h : ¬ starred) : LineLocks starred ws none ws none
  | short (ns : List String) (a : Nat) (h : starred) (ha : a < ns.length) :
    LineLocks starred [.staking .parle ns a (some .pairs)] none [] (some .shareTooSmall)
  | shared (ns : List String) (a : Nat) (h : starred) (hns : 0 < ns.length) (ha : ns.length ≤ a) :
    LineLocks starred [.staking .parle ns a (some .pairs)] none
      [.sharing .parle ns a (some .pairs)] none

/-- **The lock matters to a line of pairs only,** and there to the amounts only. -/
theorem locks_line (cs : List Char) :
    LineLocks ('*' ∈ cs) ((Grammar.dash false).wagers cs) ((Grammar.dash false).error? cs)
      ((Grammar.dash true).wagers cs) ((Grammar.dash true).error? cs) := by
  unfold Grammar.wagers Grammar.error? Grammar.line
  dsimp only
  unfold Dash.line
  by_cases hstar : '*' ∈ cs
  · rw [if_pos (List.contains_iff_mem.2 hstar), if_pos (List.contains_iff_mem.2 hstar)]
    unfold Dash.pairsLine
    generalize Text.pieces (· == '-') cs = ps
    match ps with
    | [] | [_] => exact .rejected _
    | left :: piece :: _ =>
      dsimp only
      by_cases hpiece : piece.isEmpty
      · rw [if_pos hpiece, if_pos hpiece]
        exact .rejected _
      rw [if_neg hpiece, if_neg hpiece]
      cases amount piece with
      | error e => exact .rejected e
      | ok a =>
        by_cases hlen : (Dash.groups left).length < 2
        · simp only [bind, Except.bind, hlen, if_true]
          exact .rejected _
        by_cases ha : a = 0
        · simp only [bind, Except.bind, hlen, ha, if_true, if_false]
          exact .rejected _
        simp only [bind, Except.bind, hlen, ha, if_true, if_false]
        -- Everything is right but perhaps the share.
        by_cases hlt : a < ((pairs (Dash.groups left)).map String.ofList).length
        · rw [if_pos hlt]
          exact .short _ _ hstar hlt
        · rw [if_neg hlt]
          refine .shared _ _ hstar ?_ (Nat.not_lt.1 hlt)
          rw [List.length_map, List.length_pos_iff]
          exact pairs_ne_nil (Nat.not_lt.1 hlen)
  · rw [if_neg (mt List.contains_iff_mem.1 hstar), if_neg (mt List.contains_iff_mem.1 hstar)]
    cases Dash.plainLine cs with
    | error e => exact .rejected e
    | ok ws => exact .plain ws hstar

namespace LineLocks

variable {starred : Prop} {ws vs : List Wager} {e f : Option LineError}

/-- A line that is rejected without the lock is rejected with it, for the same reason. -/
theorem error_eq (h : LineLocks starred ws e vs f) {x : LineError} (he : e = some x) :
    f = some x := by
  cases h with
  | rejected => exact he
  | plain | short | shared => cases he

/-- A line is rejected only for the lock if it has stars and its amount is less than its pairs. -/
theorem newly_rejected_iff (h : LineLocks starred ws e vs f) :
    (e = none ∧ ∃ x, f = some x) ↔
      e = none ∧ starred ∧ ∃ w, ws = [w] ∧ w.each < w.numbers.length := by
  cases h with
  | rejected => simp
  | plain ws hs => simp [hs]
  | short ns a hs ha => simp [hs, Wager.staking, ha]
  | shared ns a hs hns ha => simp [Wager.staking, ha]

/-- A line that is accepted with the lock bets on the same numbers either way. -/
theorem choices_eq (h : LineLocks starred ws e vs f) (hf : f = none) :
    ws.map Wager.choice = vs.map Wager.choice := by
  cases h with
  | plain | shared => rfl
  | rejected | short => cases hf

/-- Without stars the lock means nothing. -/
theorem eq_of_not_starred (h : LineLocks starred ws e vs f) (hs : ¬ starred) : ws = vs := by
  cases h with
  | rejected | plain => rfl
  | short _ _ hs' | shared _ _ hs' => exact absurd hs' hs

/-- With stars it makes the amount one that the pairs share, where each of them had it. -/
theorem shares (h : LineLocks starred ws e vs f) (hs : starred) (hf : f = none) :
    ∃ w v, ws = [w] ∧ vs = [v] ∧ w.each = v.total ∧ w.total = w.numbers.length * v.total ∧
      v.each = v.total / w.numbers.length := by
  cases h with
  | rejected | short => cases hf
  | plain _ hs' => exact absurd hs hs'
  | shared ns a => exact ⟨_, _, rfl, rfl, rfl, Nat.mul_comm _ _, rfl⟩

/-- The total of a line is not more with the lock: an amount that is shared among the pairs is
not more than the amount on each of them. -/
theorem sum_le (h : LineLocks starred ws e vs f) :
    (vs.map Wager.total).sum ≤ (ws.map Wager.total).sum := by
  cases h with
  | rejected | plain => exact Nat.le_refl _
  | short => exact Nat.zero_le _
  | shared ns a _ hns _ =>
    show a + 0 ≤ a * ns.length + 0
    exact Nat.add_le_add_right (Nat.le_mul_of_pos_right a hns) 0

end LineLocks

/-! ### Slips -/

/-- Has the line with a number a `*`? -/
def Starred (text : String) (k : Nat) : Prop :=
  ∃ cs, lineAt? text k = some cs ∧ '*' ∈ cs

/-- The choices of a line are those of its wagers, with the number of the line. -/
theorem map_choice_on (o : Outcome) (k : Nat) :
    (o.on k).map (fun i => (i.choice, i.line)) =
      (((o.on k).map fun i => i.toWager).map Wager.choice).map fun c => (c, k) := by
  rw [List.map_map, List.map_map]
  refine List.map_congr_left fun i hi => ?_
  have hk : i.line = k := of_decide_eq_true (List.mem_filter.1 hi).2
  rw [hk]
  rfl

/-- **The lines that only the lock rejects** are those with `*` that are accepted without it at an
amount less than the number of their pairs. -/
theorem accepts_and_rejects_iff :
    (read (.dash false) text).Accepts k ∧ (read (.dash true) text).Rejects k ↔
      (read (.dash false) text).Accepts k ∧ Starred text k ∧
        ∃ i, (read (.dash false) text).on k = [i] ∧ i.each < i.numbers.length := by
  constructor
  · rintro ⟨ha, hr⟩
    -- What the lock does is known line by line, so both slips are looked at on one line.
    obtain ⟨cs, hl⟩ := exists_lineAt?_of_accepts ha
    obtain ⟨_, hs, w, hw, hlt⟩ := (locks_line cs).newly_rejected_iff.1
      ⟨(accepts_read_iff hl).1 ha, (rejects_read_iff hl).1 hr⟩
    obtain ⟨i, hi, rfl⟩ := exists_on_eq_singleton hl hw
    exact ⟨ha, ⟨cs, hl, hs⟩, i, hi, hlt⟩
  · rintro ⟨ha, ⟨cs, hl, hs⟩, i, hi, hlt⟩
    have hw : (Grammar.dash false).wagers cs = [i.toWager] := by
      rw [← map_toWager_on_of_line hl, hi]
      rfl
    exact ⟨ha, (rejects_read_iff hl).2 ((locks_line cs).newly_rejected_iff.2
      ⟨(accepts_read_iff hl).1 ha, hs, _, hw, hlt⟩).2⟩

/-- **The lock never raises the sum of a slip:** it does not raise the total of any line. -/
theorem perLotterySum_read_le (text : String) :
    (read (.dash true) text).perLotterySum ≤ (read (.dash false) text).perLotterySum := by
  rw [perLotterySum_read, perLotterySum_read]
  induction Text.lines text.toList with
  | nil => exact Nat.le_refl _
  | cons cs ls ih =>
    rw [List.flatMap_cons, List.map_append, List.sum_append, List.flatMap_cons, List.map_append,
      List.sum_append]
    exact Nat.add_le_add (locks_line cs).sum_le ih

/-- The outcome `o` of a text on a slip that is not locked, and `o'` on one that is. -/
structure Outcome.Locks (text : String) (o o' : Outcome) : Prop where
  errors_subset : o.errors ⊆ o'.errors
  newly_rejected_iff : ∀ k, o.Accepts k ∧ o'.Rejects k ↔
    o.Accepts k ∧ Starred text k ∧ ∃ i, o.on k = [i] ∧ i.each < i.numbers.length
  choices_eq : ∀ k, o.Accepts k → o'.Accepts k →
    (o.on k).map (fun i => (i.choice, i.line)) = (o'.on k).map fun i => (i.choice, i.line)
  plain_eq : ∀ k, ¬ Starred text k →
    (o.on k).map (fun i => i.toWager) = (o'.on k).map fun i => i.toWager
  shares : ∀ k, Starred text k → o.Accepts k → o'.Accepts k →
    ∃ i j, o.on k = [i] ∧ o'.on k = [j] ∧ i.each = j.total ∧
      i.total = i.numbers.length * j.total ∧ j.each = j.total / i.numbers.length
  perLotterySum_le : o'.perLotterySum ≤ o.perLotterySum

/-- **The lock only redistributes money on lines of pairs.** -/
theorem read_locks (text : String) :
    (read (.dash false) text).Locks text (read (.dash true) text) where
  errors_subset := by
    rintro ⟨k, e⟩ he
    obtain ⟨cs, hl, he⟩ := mem_errors_read.1 he
    exact mem_errors_read.2 ⟨cs, hl, (locks_line cs).error_eq he⟩
  newly_rejected_iff _ := accepts_and_rejects_iff
  choices_eq k ha ha' := by
    obtain ⟨cs, hl⟩ := exists_lineAt?_of_accepts ha
    rw [map_choice_on, map_choice_on, map_toWager_on_of_line hl, map_toWager_on_of_line hl,
      (locks_line cs).choices_eq ((accepts_read_iff hl).1 ha')]
  plain_eq k hs := by
    rw [map_toWager_on_read, map_toWager_on_read]
    -- A number beyond the last line belongs to no instruction of either slip.
    cases hl : lineAt? text k with
    | none => rfl
    | some cs => exact (locks_line cs).eq_of_not_starred fun hmem => hs ⟨cs, hl, hmem⟩
  shares k hs _ ha' := by
    obtain ⟨cs, hl, hmem⟩ := hs
    obtain ⟨w, v, hw, hv, h⟩ := (locks_line cs).shares hmem ((accepts_read_iff hl).1 ha')
    obtain ⟨i, hi, rfl⟩ := exists_on_eq_singleton hl hw
    obtain ⟨j, hj, rfl⟩ := exists_on_eq_singleton hl hv
    exact ⟨i, j, hi, hj, h⟩
  perLotterySum_le := perLotterySum_read_le text

example : read (.dash false) "1*2*3-2\n1*2*3-8" =
      ⟨[⟨⟨.parle, ["0102", "0103", "0203"], 2, 6, some .pairs⟩, 1, ["0102", "0103", "0203"]⟩,
        ⟨⟨.parle, ["0102", "0103", "0203"], 8, 24, some .pairs⟩, 2, ["0102", "0103", "0203"]⟩], []⟩ ∧
    read (.dash true) "1*2*3-2\n1*2*3-8" =
      ⟨[⟨⟨.parle, ["0102", "0103", "0203"], 2, 8, some .pairs⟩, 2, []⟩], [(1, .shareTooSmall)]⟩ := by
  decide +kernel

end Slip
end Lottery
