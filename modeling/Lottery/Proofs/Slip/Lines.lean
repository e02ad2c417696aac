/-
# A slip reads its lines one by one

What a slip asks for are the wagers of its accepted lines in order
(`instructions_readLines`), and what is wrong with it are the errors of the
others (`errors_readLines`).  So each instruction belongs to the line whose
number it has (`wagers_of_mem_read`), each error to the line it is about
(`mem_errors_read`), and both stand in the order of the lines.

The walk through the lines is `_parse_lines`.
-/

import Lottery.Slip.Outcome
import Mathlib.Data.List.Nodup

namespace Lottery
namespace Slip

variable {g : Grammar} {n k : Nat} {ls : List (List Char)} {text : String}

/-! ### Lists with their places -/

/-- Numbering lines does not change what is made of each of them. -/
theorem map_fst_zipIdx {α β : Type} (f : α → β) (ls : List α) (n : Nat) :
    ((ls.zipIdx n).map fun e => f e.1) = ls.map f := by
  conv_rhs => rw [← List.zipIdx_map_fst n ls, List.map_map]
  rfl

/-- Nor what several things are made of each. -/
theorem flatMap_fst_zipIdx {α β : Type} (f : α → List β) (ls : List α) (n : Nat) :
    ((ls.zipIdx n).flatMap fun e => f e.1) = ls.flatMap f := by
  conv_rhs => rw [← List.zipIdx_map_fst n ls, List.flatMap_map]

/-- The numbers increase. -/
theorem pairwise_zipIdx {α : Type} (ls : List α) (n : Nat) :
    (ls.zipIdx n).Pairwise fun a b => a.2 < b.2 := by
  rw [← List.pairwise_map (f := Prod.snd) (R := (· < ·)), List.zipIdx_map_snd]
  exact List.pairwise_lt_range'

/-! ### Lines read one by one -/

namespace Grammar

/-- The wagers of a line, none of a rejected one. -/
def wagers (g : Grammar) (cs : List Char) : List Wager :=
  match g.line cs with
  | .ok ws => ws
  | .error _ => []

/-- What is wrong with a line. -/
def error? (g : Grammar) (cs : List Char) : Option LineError :=
  match g.line cs with
  | .ok _ => none
  | .error e => some e

end Grammar

/-- **The instructions of lines are their wagers,** each with the number of its line. -/
theorem instructions_readLines (g : Grammar) (n : Nat) (ls : List (List Char)) :
    (readLines g n ls).instructions =
      (ls.zipIdx n).flatMap fun l => (g.wagers l.1).map fun w => ⟨w, l.2, []⟩ := by
  induction ls generalizing n with
  | nil => rfl
  | cons cs ls ih =>
    rw [List.zipIdx_cons, List.flatMap_cons, ← ih, readLines, Grammar.wagers]
    cases g.line cs <;> rfl

/-- The errors are those of the lines that have one, each with the number of its line. -/
theorem errors_readLines (g : Grammar) (n : Nat) (ls : List (List Char)) :
    (readLines g n ls).errors =
      (ls.zipIdx n).filterMap fun l => (g.error? l.1).map fun e => (l.2, e) := by
  induction ls generalizing n with
  | nil => rfl
  | cons cs ls ih =>
    rw [List.zipIdx_cons, List.filterMap_cons, ← ih, readLines, Grammar.error?]
    cases g.line cs <;> rfl

/-- The wagers of a slip are those of its lines. -/
theorem map_toWager_instructions_read (g : Grammar) (text : String) :
    (read g text).instructions.map (fun i => i.toWager) =
      (Text.lines text.toList).flatMap g.wagers := by
  -- Flags and numbers of lines are put on the wagers and change none.
  have hflag : ∀ all is, (List.map (flag g all) is).map (fun i => i.toWager) =
      is.map fun i => i.toWager := by
    intro all is
    rw [List.map_map]
    rfl
  have hline : ∀ (n : Nat) (vs : List Wager),
      (vs.map fun v => (⟨v, n, []⟩ : Instruction)).map (fun i => i.toWager) = vs := by
    intro n vs
    rw [List.map_map]
    exact List.map_id vs
  show ((readLines g 1 _).instructions.map _).map _ = _
  rw [hflag, instructions_readLines, List.map_flatMap]
  simp only [hline]
  exact flatMap_fst_zipIdx _ _ 1

/-- The `k`-th line of a text, counted from 1. -/
def lineAt? (text : String) (k : Nat) : Option (List Char) :=
  if k = 0 then none else (Text.lines text.toList)[k - 1]?

/-- Lines are numbered from 1. -/
theorem mem_zipIdx_lines {cs : List Char} {k : Nat} :
    (cs, k) ∈ (Text.lines text.toList).zipIdx 1 ↔ lineAt? text k = some cs := by
  rw [List.mk_mem_zipIdx_iff_le_and_getElem?_sub, lineAt?]
  cases k <;> simp

/-- A line with a number has one of the lines there are. -/
theorem lineAt?_eq_some_bounds {cs : List Char} (h : lineAt? text k = some cs) :
    1 ≤ k ∧ k ≤ (Text.lines text.toList).length := by
  rw [lineAt?, Option.ite_none_left_eq_some] at h
  obtain ⟨hlt, _⟩ := List.getElem?_eq_some_iff.1 h.2
  omega

/-- Each instruction is a wager of the line whose number it has. -/
theorem wagers_of_mem_read {i : Instruction} (h : i ∈ (read g text).instructions) :
    ∃ cs, lineAt? text i.line = some cs ∧ i.toWager ∈ g.wagers cs := by
  obtain ⟨j, hj, rfl⟩ := List.mem_map.1 h
  rw [instructions_readLines] at hj
  obtain ⟨⟨cs, k⟩, hl, hj⟩ := List.mem_flatMap.1 hj
  obtain ⟨w, hw, rfl⟩ := List.mem_map.1 hj
  exact ⟨cs, mem_zipIdx_lines.1 hl, hw⟩

/-- Each wager of a line is an instruction. -/
theorem exists_mem_read {cs : List Char} {w : Wager} (hl : lineAt? text k = some cs)
    (hw : w ∈ g.wagers cs) : ∃ i ∈ (read g text).instructions, i.line = k ∧ i.toWager = w := by
  refine ⟨flag g (keys g (readLines g 1 (Text.lines text.toList)).instructions) ⟨w, k, []⟩,
    List.mem_map.2 ⟨⟨w, k, []⟩, ?_, rfl⟩, rfl, rfl⟩
  rw [instructions_readLines]
  exact List.mem_flatMap.2 ⟨(cs, k), mem_zipIdx_lines.2 hl, List.mem_map.2 ⟨w, hw, rfl⟩⟩

/-- The errors are those of the rejected lines. -/
theorem mem_errors_read {e : LineError} :
    (k, e) ∈ (read g text).errors ↔ ∃ cs, lineAt? text k = some cs ∧ g.error? cs = some e := by
  show (k, e) ∈ (readLines g 1 (Text.lines text.toList)).errors ↔ _
  rw [errors_readLines, List.mem_filterMap]
  constructor
  · rintro ⟨⟨cs, l⟩, hl, he⟩
    obtain ⟨e', he', h⟩ := Option.map_eq_some_iff.1 he
    obtain ⟨rfl, rfl⟩ := Prod.mk.inj h
    exact ⟨cs, mem_zipIdx_lines.1 hl, he'⟩
  · rintro ⟨cs, hl, he⟩
    exact ⟨(cs, k), mem_zipIdx_lines.2 hl, by rw [he]; rfl⟩

/-! ### Numbers in order -/

/-- So errors come in the order of lines, at most one for each. -/
theorem pairwise_errors_read (g : Grammar) (text : String) :
    (read g text).errors.Pairwise fun a b => a.1 < b.1 := by
  show (readLines g 1 (Text.lines text.toList)).errors.Pairwise _
  rw [errors_readLines, List.pairwise_filterMap]
  refine (pairwise_zipIdx _ 1).imp ?_
  intro a b hab x hx y hy
  obtain ⟨_, _, rfl⟩ := Option.map_eq_some_iff.1 hx
  obtain ⟨_, _, rfl⟩ := Option.map_eq_some_iff.1 hy
  exact hab

/-- Instructions come in the order of lines too, any number for each. -/
theorem pairwise_instructions_read (g : Grammar) (text : String) :
    (read g text).instructions.Pairwise fun i j => i.line ≤ j.line := by
  show ((readLines g 1 (Text.lines text.toList)).instructions.map _).Pairwise _
  rw [List.pairwise_map, instructions_readLines, List.pairwise_flatMap]
  constructor
  · intro l _
    rw [List.pairwise_map]
    exact List.pairwise_of_forall fun _ _ => Nat.le_refl _
  · refine (pairwise_zipIdx _ 1).imp ?_
    intro a b hab x hx y hy
    obtain ⟨_, _, rfl⟩ := List.mem_map.1 hx
    obtain ⟨_, _, rfl⟩ := List.mem_map.1 hy
    exact Nat.le_of_lt hab

end Slip
end Lottery
