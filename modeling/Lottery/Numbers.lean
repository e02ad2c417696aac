/-
# The numbers of a bet

The numbers that can win are the pieces of a text between commas, trimmed,
without blank ones.  The numbers that are charged for are the pieces between
commas and spaces that are not blank throughout: `12 34` wins as one number
and is charged as two.

| definition | function | counts |
| --- | --- | --- |
| `Numbers.ofValue` | `split_bet_numbers` | the numbers that can win |
| `Numbers.count` | `count_numbers` | the numbers that are charged for |
-/

import Lottery.Text.Blank
import Lottery.Value.Written

namespace Lottery
namespace Numbers

/-- The trimmed texts that are not blank throughout. -/
def trimmed (texts : List (List Char)) : List String :=
  ((texts.map Text.trim).filter fun t => !t.isEmpty).map String.ofList

/-- The numbers of a text. -/
def ofText (s : String) : List String :=
  trimmed (Text.pieces (· == ',') s.toList)

/-- The numbers of a value: of a text, of each element of a list, or the value as
one number; none of a value that does not count as present. -/
def ofValue (v : Value) : Except Fault (List String) :=
  if !v.isPresent then .ok []
  else match v with
    | .text s => .ok (ofText s)
    | .list vs => do
      -- Elements of a list are not divided at commas, but trimmed like the pieces of a text.
      let texts ← vs.mapM Value.written
      .ok (trimmed (texts.map String.toList))
    | v => do
      let s ← v.written
      .ok (trimmed [s.toList])

/-- What stands between two numbers that are charged for. -/
def isGap (c : Char) : Bool :=
  c == ' ' || c == ','

/-- How many numbers of a text are charged for. -/
def countText (s : String) : Nat :=
  ((Text.words isGap s.toList).filter fun w => !(Text.trim w).isEmpty).length

/-- How many numbers of a value are charged for. -/
def count (v : Value) : Except Fault Nat :=
  if !v.isPresent then .ok 0
  else do
    let s ← v.written
    .ok (countText s)

example : ofText " 12, ,34 " = ["12", "34"] ∧ countText "12 34" = 2 := by decide +kernel

end Numbers
end Lottery
