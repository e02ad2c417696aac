/-
# Recorded plays

A play is a bet that was taken: for a schedule on a day, with its total if one
was agreed, and with the names that it can be grouped by.  What was collected
for it is its total, or else its amount for each number charged for.

`Play` is `PlayRecord`, `Play.bet` is its `as_bet`, and `Play.collected` is
`collected_amount`.
-/

import Lottery.Payout

namespace Lottery

/-- A play as it was recorded. -/
structure Play where
  playType : Value
  numbers : Value
  amount : Value
  scheduleId : Value
  day : Value
  total : Value
  lottery : Value
  schedule : Value
  agent : Value
  id : Value

namespace Play

/-- The word for a play type that was left out; nothing wins with it. -/
def unnamed : Value := .text "posicion"

/-- The bet of a play. -/
def bet (p : Play) : Bet :=
  ⟨p.playType.orElse unnamed, p.numbers, p.amount⟩

/-- What was collected for a play. -/
def collected (p : Play) : Except Fault Binary64 :=
  if p.total.isNull then do
    let stake ← p.amount.amount
    let count ← Numbers.count p.numbers
    .ok (stake.mul (.ofInt count))
  else p.total.toDouble

end Play
end Lottery
