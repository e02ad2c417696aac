/-
# Results of schedules

The result of a schedule on a day is the last one that was reported for it,
even if that one is no draw.

`Results.ofRows` is `index_results`: rows are entered one after the other, so a later
row takes the place of an earlier one for the same schedule and day.
-/

import Lottery.Draw
import Lottery.Entries
import Lottery.Value.Key
import Lottery.Value.Written

namespace Lottery

/-- What a draw is held for: a schedule and a day. -/
structure Drawing where
  schedule : String
  day : String
  deriving DecidableEq

/-- A reported result: the schedule, the day, and the draw as it was given. -/
structure ResultRow where
  schedule : Value
  day : Value
  raw : Value

namespace ResultRow

/-- The row that three values are. -/
def ofParts : List Value → Except Fault ResultRow
  | [schedule, day, raw] => .ok ⟨schedule, day, raw⟩
  | vs => .error (.rowWidth 3 vs.length)

/-- The rows that a value lists, each as a value of three elements. -/
def listOf (v : Value) : Except Fault (List ResultRow) := do
  let rows ← v.elements
  let rows ← rows.mapM Value.elements
  rows.mapM ofParts

end ResultRow

namespace Draw

/-- The draw that a value writes. -/
def ofValue? : Value → Option Draw
  | .text s => read? s
  | _ => none

end Draw

/-- What is known of each drawing, in the order in which they first came. -/
abbrev Results := Entries Drawing (Option Draw)

namespace Results

/-- The results after one more row. -/
def add (rs : Results) (row : ResultRow) : Except Fault Results := do
  let schedule ← row.schedule.written
  let day ← row.day.written
  .ok (rs.put ⟨schedule, day⟩ (Draw.ofValue? row.raw))

/-- The results that rows report. -/
def ofRows (rows : List ResultRow) : Except Fault Results :=
  rows.foldlM add []

/-- What is known of a drawing, no draw if nothing is. -/
def get (rs : Results) (drawing : Drawing) : Option Draw :=
  (rs.lookup drawing).getD none

/-- The draw of a schedule on a day, as a play names them. -/
def find (rs : Results) (schedule day : Value) : Except Fault (Option Draw) := do
  match ← schedule.asKey, ← day.asKey with
  | .text s, .text d => .ok (rs.get ⟨s, d⟩)
  | _, _ => .ok none

/-- The drawings in order of schedule, then day. -/
def sorted (rs : Results) : Results :=
  Text.sortBy (fun a b =>
    Text.before a.1.schedule b.1.schedule ||
      (a.1.schedule == b.1.schedule && Text.before a.1.day b.1.day)) rs

/-- After a draw is put, its drawing has it and all others what they had. -/
theorem get_put (rs : Results) (drawing other : Drawing) (d : Option Draw) :
    get (rs.put drawing d) other = if other = drawing then d else rs.get other := by
  unfold get
  rw [Entries.lookup_put]
  by_cases h : other = drawing <;> simp [h]

end Results

/-- The numbers that pay the limited multiplier, by schedule. -/
abbrev LimitedNumbers := Entries Value (List String)

namespace LimitedNumbers

/-- The limited numbers of a schedule. -/
def find (l : LimitedNumbers) (schedule : Value) : Except Fault (List String) := do
  let key ← schedule.asKey
  .ok ((l.lookup key).getD [])

end LimitedNumbers
end Lottery
