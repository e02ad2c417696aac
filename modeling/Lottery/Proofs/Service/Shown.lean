/-
# Answers that cannot be written

An integer of more than 4300 digits cannot be written, so an answer that holds
one breaks as one that fails does (`Breaks`).  Where it can stand:

| shown | holds a long integer if one is |
| --- | --- |
| a draw, a summary | never |
| an instruction | its total or the number of its line |
| the error of a line | the number of the line |
| a violation | the stake |
| a tally | the number of its plays |

The answers are put together by the views themselves and by `_draw_payload`,
`_group_payload` and `_instructions_payload`.
-/

import Lottery.Proofs.Service.Reading
import Lottery.Proofs.Slip.WellFormed

namespace Lottery

/-! ### Long integers in what is shown -/

namespace Value

variable {fields others : List (String × Value)}

/-- Values made from a list have a long integer if one of them has. -/
theorem anyLongInteger_map {α : Type} {f : α → Value} {l : List α} :
    anyLongInteger (l.map f) = true ↔ ∃ a ∈ l, (f a).hasLongInteger = true := by
  simp [anyLongInteger_iff]

/-- Fields after fields have one if either have. -/
theorem anyLongField_append :
    anyLongField (fields ++ others) = (anyLongField fields || anyLongField others) := by
  induction fields with
  | nil => rfl
  | cons f fields ih =>
    rw [List.cons_append, anyLongField, anyLongField, ih, Bool.or_assoc]

/-- The same for a list as a value. -/
theorem hasLongInteger_map {α : Type} {f : α → Value} {l : List α} :
    (list (l.map f)).hasLongInteger = true ↔ ∃ a ∈ l, (f a).hasLongInteger = true := by
  rw [hasLongInteger, anyLongInteger_map]

end Value

namespace Service

namespace Show

/-- Texts have no integers. -/
theorem hasLongInteger_texts (ss : List String) : (texts ss).hasLongInteger = false := by
  rw [Bool.eq_false_iff, Ne, texts, Value.hasLongInteger_map]
  rintro ⟨_, _, h⟩
  cases h

/-- No field of a draw is an integer. -/
theorem hasLongInteger_draw (d : Draw) : (draw d).hasLongInteger = false := by
  simp [draw, Value.hasLongInteger, Value.anyLongField, hasLongInteger_texts]

/-- A wager is written with no other total than its own. -/
theorem isLong_total_of_particulars {w : Wager}
    (h : Value.anyLongField (particulars w) = true) : Text.isLong w.total = true := by
  rw [particulars, Value.anyLongField_append, Bool.or_eq_true_iff] at h
  -- A mode is a word; a written total is the total.
  rcases h with h | h
  · split at h <;> cases h
  · split at h
    · next n hn =>
      unfold Wager.writtenTotal? at hn
      split at hn
      · obtain rfl := Option.some.inj hn
        simpa [Value.anyLongField, Value.hasLongInteger] using h
      · cases hn
    · cases h

/-- The stake of an instruction is no greater than its total, so its total or the number of its
line is long if anything is. -/
theorem hasLongInteger_instruction {i : Slip.Instruction} {shared : Prop}
    (h : i.WellFormed shared) : (instruction i).hasLongInteger = true ↔
      Text.isLong i.total = true ∨ Text.isLong i.line = true := by
  -- Each stake is no greater than the total, so it is no cause of its own.
  have hle : i.each ≤ i.total := by
    have hpos : 0 < i.numbers.length := List.length_pos_of_ne_nil h.numbers_ne_nil
    have hmul : i.each ≤ i.each * i.numbers.length := Nat.le_mul_of_pos_right _ hpos
    by_cases hs : shared
    · exact hmul.trans (h.le_total hs)
    · exact hmul.trans (h.total_eq hs).ge
  have heach : Text.isLong i.each = true → Text.isLong i.total = true := Text.isLong_of_le hle
  simp only [instruction, instructionFields, Value.hasLongInteger, Value.anyLongField_append,
    Value.anyLongField, hasLongInteger_texts, Int.natAbs_natCast, Bool.or_false, Bool.false_or,
    Bool.or_eq_true_iff]
  constructor
  · rintro ((h | h | h) | h)
    · exact .inl (heach h)
    · exact .inl h
    · exact .inr h
    · exact .inl (isLong_total_of_particulars h)
  · rintro (h | h)
    · exact .inl (.inr (.inl h))
    · exact .inl (.inr (.inr h))

/-- The only integer of an error is the number of its line. -/
theorem hasLongInteger_lineError (e : Nat × LineError) :
    (lineError e).hasLongInteger = Text.isLong e.1 := by
  simp [lineError, Value.hasLongInteger, Value.anyLongField]

/-- The only integer of a violation is the stake that was attempted; what is allowed and used are
doubles. -/
theorem hasLongInteger_violation (v : Exposure.Violation) :
    (violation v).hasLongInteger = Text.isLong v.attempt := by
  simp [violation, Value.hasLongInteger, Value.anyLongField]

/-- A tally with a text as its key and its label. -/
theorem hasLongInteger_tally {t : Tally} (hkey : t.key.hasLongInteger = false)
    (hlabel : t.label.hasLongInteger = false) :
    (tally t).hasLongInteger = Text.isLong t.plays := by
  simp [tally, Value.hasLongInteger, Value.anyLongField, hkey, hlabel]

/-- A summary is doubles throughout. -/
theorem hasLongInteger_summary (s : Summary) : (summary s).hasLongInteger = false := by
  simp [summary, Value.hasLongInteger, Value.anyLongField]

end Show

/-! ### Breaking -/

/-- A computation of an answer fails, or it gives one that cannot be written. -/
def Breaks (x : Except Refusal Value) : Prop :=
  Fails x ∨ ∃ v, x = .ok v ∧ v.hasLongInteger = true

/-- A value breaks exactly if it cannot be written. -/
theorem breaks_ok {v : Value} : Breaks (.ok v) ↔ v.hasLongInteger = true := by
  simp [Breaks, Fails]

/-- An explanation is an answer. -/
theorem not_breaks_explained {m : String} : ¬Breaks (.error (.explained m)) := by
  simp [Breaks, Fails]

/-- **Two steps break if the first fails,** or if it does not and the second breaks. -/
theorem breaks_bind {α : Type} {x : Except Refusal α} {g : α → Except Refusal Value} :
    Breaks (x >>= g) ↔ Fails x ∨ ∃ a, x = .ok a ∧ Breaks (g a) := by
  unfold Breaks
  rw [fails_bind]
  simp only [bind_eq_ok]
  constructor
  -- A computation breaks where it fails, or at its end with a value that cannot be shown.
  · rintro ((h | ⟨a, ha, h⟩) | ⟨v, ⟨a, ha, hv⟩, h⟩)
    · exact .inl h
    · exact .inr ⟨a, ha, .inl h⟩
    · exact .inr ⟨a, ha, .inr ⟨v, hv, h⟩⟩
  · rintro (h | ⟨a, ha, h | ⟨v, hv, h⟩⟩)
    · exact .inl (.inl h)
    · exact .inl (.inr ⟨a, ha, h⟩)
    · exact .inr ⟨v, ⟨a, ha, hv⟩, h⟩

/-- The answer to a computation of which nothing is explained. -/
theorem breaks_orRefuse_failed {y : Except Fault Value} : Breaks (orRefuse .failed y) ↔
    (∃ f, y = .error f) ∨ ∃ v, y = .ok v ∧ v.hasLongInteger = true := by
  simp only [Breaks, fails_orRefuse_failed, orRefuse_eq_ok]

end Service
end Lottery
