/-
# Settlements

Settling a play compares it with the draw of its schedule and day.  Without a
draw nothing is paid; what was collected depends on the play alone.  Both
amounts are rounded to cents.

`Play.settle` is `settle_play`, and `Play.settleAll` is `play_details`, which looks up the
draw and the limited numbers of each play.
-/

import Lottery.Play.Basic
import Lottery.Play.Results

namespace Lottery

/-- Where a play stands. -/
inductive Status where
  | won
  | lost
  | noResult
  deriving DecidableEq

namespace Status

/-- The word for a status. -/
def name : Status → String
  | .won => "bingo"
  | .lost => "no cogió premio"
  | .noResult => "resultado no disponible"

end Status

/-- A settled play. -/
structure Settlement where
  play : Play
  status : Status
  won : Bool
  pay : Binary64
  collected : Binary64
  result : Option String

namespace Play

/-- A play settled with a draw, or with none yet. -/
def settle (p : Play) (d : Option Draw) (limited : List String)
    (prices : Option Price.Table) : Except Fault Settlement := do
  -- What was collected is rounded first, so its fault comes before any of the prize.
  let raw ← p.collected
  let collected ← Money.ofDouble raw
  match d with
  | none => .ok ⟨p, .noResult, false, .zero false, collected, none⟩
  | some d => do
    let prize ← Bet.evaluate (some p.bet) (some d) limited prices
    let pay ← Money.ofDouble prize.pay
    .ok ⟨p, if prize.won then .won else .lost, prize.won, pay, collected, some d.text⟩

/-- A play settled with what is known of its schedule and day. -/
def settleFrom (results : Results) (limited : LimitedNumbers) (prices : Option Price.Table)
    (p : Play) : Except Fault Settlement := do
  let d ← results.find p.scheduleId p.day
  let numbers ← limited.find p.scheduleId
  p.settle d numbers prices

/-- Plays settled one by one. -/
def settleAll (plays : List Play) (results : Results) (limited : LimitedNumbers)
    (prices : Option Price.Table) : Except Fault (List Settlement) :=
  plays.mapM (settleFrom results limited prices)

end Play
end Lottery
