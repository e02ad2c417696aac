/-
# Slips of one line

A text without margins and line ends is one line.  If the line is rejected, the
slip has its error and nothing else (`read_eq_of_line_eq_error`); if it is
accepted, the slip asks for its wagers and for nothing else (`asksFor_read`).
-/

import Lottery.Proofs.Slip.Lines
import Lottery.Proofs.Text.Breaks

namespace Lottery
namespace Slip

/-- A slip of one line that is accepted, and what it asks for. -/
structure Outcome.AsksFor (o : Outcome) (ws : List Wager) : Prop where
  errors_eq : o.errors = []
  wagers_eq : o.instructions.map (fun i => i.toWager) = ws
  line_eq : ∀ i ∈ o.instructions, i.line = 1

/-- An outcome that asks for one wager is that of one accepted line, flags aside. -/
theorem Outcome.AsksFor.exists_eq {o : Outcome} {w : Wager} (h : o.AsksFor [w]) :
    ∃ ds, o = ⟨[⟨w, 1, ds⟩], []⟩ := by
  obtain ⟨is, es⟩ := o
  obtain ⟨i, rfl, rfl⟩ := List.map_eq_singleton_iff.1 h.wagers_eq
  obtain rfl : es = [] := h.errors_eq
  have hline := h.line_eq i List.mem_cons_self
  exact ⟨i.duplicates, by rw [← hline]⟩

section Line

variable {g : Grammar} {l : List Char} (hl : Text.Flush l ∧ '\n' ∉ l)
include hl

/-- A text without line ends and margins is one line. -/
theorem lines_of_flush : Text.lines (String.ofList l).toList = [l] := by
  have hkeep : (!l.isEmpty) = true := by simpa using hl.1.ne_nil
  rw [String.toList_ofList, Text.lines_of_not_mem hl.2, hl.1.trim, List.filter_cons, if_pos hkeep]
  rfl

/-- **A line that is rejected is one error.** -/
theorem read_eq_of_line_eq_error {e : LineError} (h : g.line l = .error e) :
    read g (String.ofList l) = ⟨[], [(1, e)]⟩ := by
  rw [read, lines_of_flush hl, readLines, h]
  rfl

/-- **A line that is accepted asks for its wagers.** -/
theorem asksFor_read {ws : List Wager} (h : g.line l = .ok ws) :
    (read g (String.ofList l)).AsksFor ws := by
  have hread : readLines g 1 [l] = ⟨ws.map fun w => ⟨w, 1, []⟩, []⟩ := by
    rw [readLines, h, readLines]
    simp [Outcome.empty]
  refine ⟨?_, ?_, ?_⟩
  · rw [read, lines_of_flush hl, hread]
  · rw [map_toWager_instructions_read, lines_of_flush hl, List.flatMap_singleton, Grammar.wagers, h]
  · intro i hi
    rw [read, lines_of_flush hl, hread] at hi
    obtain ⟨j, hj, rfl⟩ := List.mem_map.1 hi
    obtain ⟨w, _, rfl⟩ := List.mem_map.1 hj
    rfl

end Line

end Slip
end Lottery
