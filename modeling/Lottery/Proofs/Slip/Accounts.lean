/-
# Every line of a slip is accounted for once

An accepted line has a wager (`Accepted.ne_nil`), and lines are read one by one.
So for each line that is not blank there is either one error or at least one
instruction and never both, and nothing is there for a number that no line has
(`read_accounts`).

The lines are those of `_split_lines`, and `_parse_lines` goes through them.
-/

import Lottery.Proofs.Slip.WellFormed
import Mathlib.Algebra.GroupWithZero.Nat

namespace Lottery
namespace Slip

variable {g : Grammar} {k : Nat} {text : String}

/-- A line has a wager exactly if nothing is wrong with it. -/
theorem Grammar.error?_eq_none_iff {cs : List Char} : g.error? cs = none ↔ g.wagers cs ≠ [] := by
  unfold Grammar.error? Grammar.wagers
  cases h : g.line cs with
  | error e => simp
  | ok ws =>
    simp [(accepted_line h).ne_nil]

namespace Outcome

/-- A line is rejected: it has one error and no instruction. -/
def Rejects (o : Outcome) (k : Nat) : Prop :=
  (o.errors.countP fun e => e.1 = k) = 1 ∧ ∀ i ∈ o.instructions, i.line ≠ k

/-- A line is accepted: it has an instruction and no error. -/
def Accepts (o : Outcome) (k : Nat) : Prop :=
  (∀ e ∈ o.errors, e.1 ≠ k) ∧ ∃ i ∈ o.instructions, i.line = k

/-- An outcome of `n` lines that accounts for each of them once. -/
structure Accounts (o : Outcome) (n : Nat) : Prop where
  once : ∀ k, 1 ≤ k → k ≤ n → o.Rejects k ∧ ¬ o.Accepts k ∨ o.Accepts k ∧ ¬ o.Rejects k
  instruction_bounds : ∀ i ∈ o.instructions, 1 ≤ i.line ∧ i.line ≤ n
  error_bounds : ∀ e ∈ o.errors, 1 ≤ e.1 ∧ e.1 ≤ n
  errors_increasing : o.errors.Pairwise fun a b => a.1 < b.1
  instructions_ordered : o.instructions.Pairwise fun i j => i.line ≤ j.line
  perLotterySum_eq : o.perLotterySum = (o.instructions.map fun i => i.total).sum

/-- A rejected line has no instruction, so it is not accepted. -/
theorem not_accepts_of_rejects {o : Outcome} (h : o.Rejects k) : ¬ o.Accepts k :=
  fun ⟨_, i, hi, hk⟩ => h.2 i hi hk

end Outcome

/-- A line with an error is rejected: no other line has its number. -/
theorem rejects_of_error? {cs : List Char} {e : LineError} (hl : lineAt? text k = some cs)
    (he : g.error? cs = some e) : (read g text).Rejects k := by
  have hmem : (k, e) ∈ (read g text).errors := mem_errors_read.2 ⟨cs, hl, he⟩
  constructor
  -- Errors come in increasing order, so a line has no two of them.
  · have hnodup : ((read g text).errors.map Prod.fst).Nodup :=
      List.pairwise_map.2 ((pairwise_errors_read g text).imp Nat.ne_of_lt)
    have hone := List.count_eq_one_of_mem hnodup (List.mem_map.2 ⟨(k, e), hmem, rfl⟩)
    rw [List.count, List.countP_map] at hone
    rw [← hone]
    exact List.countP_congr fun _ _ => by simp
  · intro i hi hk
    obtain ⟨cs', hl', hw⟩ := wagers_of_mem_read hi
    rw [hk, hl, Option.some.injEq] at hl'
    have hnone := Grammar.error?_eq_none_iff.2 (List.ne_nil_of_mem (hl' ▸ hw))
    rw [he] at hnone
    cases hnone

/-- A line without an error is accepted: it asks for something. -/
theorem accepts_of_error? {cs : List Char} (hl : lineAt? text k = some cs)
    (he : g.error? cs = none) : (read g text).Accepts k := by
  constructor
  · rintro ⟨l, e⟩ hmem rfl
    obtain ⟨cs', hl', he'⟩ := mem_errors_read.1 hmem
    rw [hl, Option.some.injEq] at hl'
    rw [← hl', he] at he'
    cases he'
  -- A line without an error has wagers, and each of them is an instruction.
  · obtain ⟨w, hw⟩ := List.exists_mem_of_ne_nil _ (Grammar.error?_eq_none_iff.1 he)
    obtain ⟨i, hi, hk, _⟩ := exists_mem_read hl hw
    exact ⟨i, hi, hk⟩

/-- Only a line that there is can be accepted. -/
theorem exists_lineAt?_of_accepts (h : (read g text).Accepts k) :
    ∃ cs, lineAt? text k = some cs := by
  obtain ⟨_, i, hi, rfl⟩ := h
  obtain ⟨cs, hl, _⟩ := wagers_of_mem_read hi
  exact ⟨cs, hl⟩

section Line

variable {cs : List Char} (hl : lineAt? text k = some cs)
include hl

/-- A line is accepted exactly if nothing is wrong with it, -/
theorem accepts_read_iff : (read g text).Accepts k ↔ g.error? cs = none := by
  refine ⟨fun h => ?_, accepts_of_error? hl⟩
  cases he : g.error? cs with
  | none => rfl
  | some e => exact absurd h (Outcome.not_accepts_of_rejects (rejects_of_error? hl he))

/-- and rejected exactly if something is. -/
theorem rejects_read_iff : (read g text).Rejects k ↔ ∃ e, g.error? cs = some e := by
  constructor
  · intro h
    cases he : g.error? cs with
    | none => exact absurd (accepts_of_error? hl he) (Outcome.not_accepts_of_rejects h)
    | some e => exact ⟨e, rfl⟩
  · rintro ⟨e, he⟩
    exact rejects_of_error? hl he

end Line

/-! ### The instructions of one line -/

/-- The instructions of a line. -/
def Outcome.on (o : Outcome) (k : Nat) : List Instruction :=
  o.instructions.filter fun i => i.line = k

/-- Among lines that are numbered from `n` on, the `k`th has its own wagers and those of no other.
-/
theorem map_toWager_filter_readLines (g : Grammar) (n k : Nat) (ls : List (List Char)) :
    ((readLines g n ls).instructions.filter fun i => i.line = k).map (fun i => i.toWager) =
      if k < n then [] else (ls[k - n]?.map g.wagers).getD [] := by
  induction ls generalizing n with
  | nil => simp [readLines, Outcome.empty]
  | cons l ls ih =>
    have hline : (((g.wagers l).map fun w => (⟨w, n, []⟩ : Instruction)).filter
        fun i => i.line = k).map (fun i => i.toWager) = if n = k then g.wagers l else [] := by
      rw [List.filter_map, List.map_map]
      split <;> simp [Function.comp_def, *]
    rw [instructions_readLines, List.zipIdx_cons, List.flatMap_cons, ← instructions_readLines,
      List.filter_append, List.map_append, ih (n + 1), hline]
    -- The line is before the first, the first itself, or one of the others.
    rcases Nat.lt_trichotomy k n with hk | rfl | hk
    · rw [if_neg (Nat.ne_of_gt hk), if_pos (Nat.lt_succ_of_lt hk), if_pos hk, List.nil_append]
    · rw [if_pos rfl, if_pos (Nat.lt_succ_self k), if_neg (Nat.lt_irrefl k), Nat.sub_self]
      exact List.append_nil _
    · have hsub : k - n = (k - (n + 1)) + 1 := by omega
      rw [if_neg (Nat.ne_of_lt hk), if_neg (by omega), if_neg (by omega), hsub,
        List.getElem?_cons_succ, List.nil_append]

/-- **The instructions of a line are its wagers.** -/
theorem map_toWager_on_read (g : Grammar) (text : String) (k : Nat) :
    ((read g text).on k).map (fun i => i.toWager) = ((lineAt? text k).map g.wagers).getD [] := by
  have hflag : ∀ (all : List (PlayType × String)) (is : List Instruction),
      ((is.map (flag g all)).filter fun i => i.line = k).map (fun i => i.toWager) =
        (is.filter fun i => i.line = k).map fun i => i.toWager := by
    intro all is
    rw [List.filter_map, List.map_map]
    rfl
  rw [Outcome.on, read, hflag, map_toWager_filter_readLines, lineAt?]
  cases k <;> simp

/-- The same for a line that is known. -/
theorem map_toWager_on_of_line {cs : List Char} (hl : lineAt? text k = some cs) :
    ((read g text).on k).map (fun i => i.toWager) = g.wagers cs := by
  rw [map_toWager_on_read, hl]
  rfl

/-- A line with one wager has one instruction. -/
theorem exists_on_eq_singleton {cs : List Char} {w : Wager} (hl : lineAt? text k = some cs)
    (hw : g.wagers cs = [w]) : ∃ i, (read g text).on k = [i] ∧ i.toWager = w :=
  List.map_eq_singleton_iff.1 ((map_toWager_on_of_line hl).trans hw)

/-- The sum of an outcome is that of the totals of its instructions. -/
theorem perLotterySum_eq_sum (o : Outcome) :
    o.perLotterySum = (o.instructions.map fun i => i.total).sum := by
  rw [Outcome.perLotterySum]
  induction o.instructions with
  | nil => rfl
  | cons i is ih => rw [List.foldr_cons, ih, List.map_cons, List.sum_cons]

/-- The sum of a slip is that of the wagers of its lines. -/
theorem perLotterySum_read (g : Grammar) (text : String) :
    (read g text).perLotterySum =
      (((Text.lines text.toList).flatMap g.wagers).map Wager.total).sum := by
  rw [perLotterySum_eq_sum, ← map_toWager_instructions_read, List.map_map]
  rfl

/-- **Every line is accounted for once.**  Reading a text gives, for each of its lines that is
not blank, either one error and no instruction or no error and at least one instruction; it
gives nothing for any other number, keeps the lines in order and adds up their totals. -/
theorem read_accounts (g : Grammar) (text : String) :
    (read g text).Accounts (Text.lines text.toList).length where
  once k hk hkn := by
    obtain ⟨cs, hl⟩ : ∃ cs, lineAt? text k = some cs := by
      rw [lineAt?, if_neg (by omega)]
      exact ⟨_, List.getElem?_eq_getElem (by omega)⟩
    -- A line has either an error or wagers, and so it is told which of the two holds.
    cases he : g.error? cs with
    | some e =>
      have h := rejects_of_error? hl he
      exact .inl ⟨h, Outcome.not_accepts_of_rejects h⟩
    | none =>
      have h := accepts_of_error? hl he
      exact .inr ⟨h, fun hr => Outcome.not_accepts_of_rejects hr h⟩
  instruction_bounds i hi := by
    obtain ⟨cs, hl, _⟩ := wagers_of_mem_read hi
    exact lineAt?_eq_some_bounds hl
  error_bounds e he := by
    obtain ⟨cs, hl, _⟩ := mem_errors_read.1 he
    exact lineAt?_eq_some_bounds hl
  errors_increasing := pairwise_errors_read g text
  instructions_ordered := pairwise_instructions_read g text
  perLotterySum_eq := perLotterySum_eq_sum _

end Slip
end Lottery
