/-
# Draws

A draw is written `ABC DEFG` with seven ASCII digits and one space: three
digits, then four.  `A` is the leading digit; `BC`, `DE` and `FG` are the three
groups that the play types bet on.

`winners` lists, once each and in order, the numbers that win for a play type;
a parle is listed in its canonical spelling.

| definition | function |
| --- | --- |
| `Draw.read?` | `parse_result` |
| `Draw.winners` | `winners_by_type` |
| `Draw.arrangements` | `_tripleta_winners` |

The digits are typed, so a draw that breaks its format cannot be built
(`RESULT_PATTERN`).
-/

import Lottery.Parle
import Lottery.PlayType

namespace Lottery

/-- A decimal digit. -/
abbrev Digit := Fin 10

namespace Digit

/-- The ASCII character of a digit. -/
def toChar (d : Digit) : Char :=
  Char.ofNat (48 + d.val)

/-- The digit that an ASCII character writes. -/
def ofChar? (c : Char) : Option Digit :=
  if h : 48 ≤ c.toNat ∧ c.toNat < 58 then some ⟨c.toNat - 48, by omega⟩ else none

/-- A digit is read back from its character. -/
theorem ofChar?_toChar (d : Digit) : ofChar? (toChar d) = some d := by
  revert d; decide

end Digit

/-- A group of two digits. -/
structure Group where
  tens : Digit
  units : Digit
  deriving DecidableEq

namespace Group

/-- The two characters of a group. -/
def chars (g : Group) : List Char :=
  [g.tens.toChar, g.units.toChar]

/-- A group as text. -/
def text (g : Group) : String :=
  String.ofList g.chars

end Group

/-- A draw: its leading digit and its three groups. -/
structure Draw where
  lead : Digit
  first : Group
  second : Group
  third : Group
  deriving DecidableEq

namespace Draw

/-- The draw that a text writes: three digits, one space and four digits, and
nothing else. -/
def read? (s : String) : Option Draw :=
  match s.toList with
  | [a, b, c, ' ', d, e, f, g] =>
    match Digit.ofChar? a, Digit.ofChar? b, Digit.ofChar? c, Digit.ofChar? d, Digit.ofChar? e,
      Digit.ofChar? f, Digit.ofChar? g with
    | some a, some b, some c, some d, some e, some f, some g => some ⟨a, ⟨b, c⟩, ⟨d, e⟩, ⟨f, g⟩⟩
    | _, _, _, _, _, _, _ => none
  | _ => none

/-- The first three digits. -/
def threeDigits (d : Draw) : List Char :=
  d.lead.toChar :: d.first.chars

/-- The last four digits. -/
def fourDigits (d : Draw) : List Char :=
  d.second.chars ++ d.third.chars

/-- The draw as it is written. -/
def text (d : Draw) : String :=
  String.ofList (d.threeDigits ++ ' ' :: d.fourDigits)

/-- The pairs of groups at two different places. -/
def groupPairs (d : Draw) : List (List Char) :=
  [d.first.chars ++ d.second.chars, d.first.chars ++ d.third.chars,
    d.second.chars ++ d.third.chars]

/-- The three groups in each of their six orders. -/
def arrangements (d : Draw) : List (List Char) :=
  let x := d.first.chars
  let y := d.second.chars
  let z := d.third.chars
  [x ++ y ++ z, x ++ z ++ y, y ++ x ++ z, y ++ z ++ x, z ++ x ++ y, z ++ y ++ x]

/-- The numbers that win for a play type, once each and in order. -/
def winners (d : Draw) : PlayType → List String
  | .fijo => [d.first.text]
  | .corrido => Text.sortedSet [d.second.text, d.third.text]
  | .centena => [String.ofList d.threeDigits]
  | .parle => Text.sortedSet (d.groupPairs.map fun p => String.ofList (Parle.smaller p))
  | .tripleta => Text.sortedSet (d.arrangements.map String.ofList)

/-- **What is written is read back.** -/
theorem read?_text (d : Draw) : read? d.text = some d := by
  simp [read?, text, threeDigits, fourDigits, Group.chars, Digit.ofChar?_toChar]

example : (read? "134 3459").map (fun d => d.winners .parle) = some ["3434", "3459"] := by
  decide +kernel

end Draw
end Lottery
