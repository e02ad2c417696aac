/-
# Tallies and summaries

Settlements are grouped by day, schedule, lottery or agent, or by any field of
their plays.  A tally is what one group comes to.  It is labelled with its key,
under a grouping by schedule with the name of the schedule of its first play.
Its amounts are added as doubles in order and rounded to cents at the end; its
balance is the difference of the rounded sums, to the nearest hundredth.  The
balance of a summary is the difference of the sums before rounding, rounded to
cents.

| definition | function |
| --- | --- |
| `Grouping.ofName?` | `GROUP_KEYS` |
| `Grouping.key`, `Grouping.label` | `_resolve_key`, `GROUP_LABELS` |
| `Settlement.group` | `group_settlements` |
| `Settlement.summarize` | `summarize` |
| `Play.aggregate`, `Play.daily` | `aggregate`, `daily_totals` |
-/

import Lottery.Play.Settlement
import Lottery.Sorting

namespace Lottery

/-- What settlements are grouped by. -/
inductive Grouping where
  | day
  | schedule
  | lottery
  | agent
  | field (get : Play → Value)
  /-- A name that no field of a play has. -/
  | unknown (name : String)

namespace Grouping

/-- The grouping that a word names. -/
def ofName? (word : String) : Option Grouping :=
  if word == "day" then some .day
  else if word == "schedule" then some .schedule
  else if word == "lottery" then some .lottery
  else if word == "agent" then some .agent
  else none

/-- The grouping that a value names. -/
def ofValue (v : Value) : Except Fault Grouping := do
  let key ← v.asKey
  match key with
  | .text word =>
    match ofName? word with
    | some g => .ok g
    | none => .error (.unknownGrouping word)
  | key => do
    -- Any other value that can be a key names no grouping, and is quoted as it is written.
    let word ← key.written
    .error (.unknownGrouping word)

/-- The key of a play. -/
def key : Grouping → Play → Value
  | .day, p => p.day
  | .schedule, p => p.scheduleId
  | .lottery, p => p.lottery
  | .agent, p => p.agent
  | .field get, p => get p
  | .unknown _, _ => .null

/-- The key of a play, provided it has one and can be looked up. -/
def asKey (g : Grouping) (p : Play) : Except Fault Value :=
  match g with
  | .unknown name => .error (.noField name)
  | g => (g.key p).asKey

/-- The label of a group whose first play is `p`. -/
def label : Grouping → Play → Value
  | .schedule, p => p.schedule.orElse p.scheduleId
  | g, p => g.key p

end Grouping

/-- What the settlements with one key come to. -/
structure Tally where
  key : Value
  label : Value
  collected : Binary64
  paid : Binary64
  plays : Nat

namespace Tally

/-- The tally of the group that a settlement opens, before it is counted. -/
def opening (g : Grouping) (s : Settlement) : Tally :=
  ⟨g.key s.play, g.label s.play, .zero false, .zero false, 0⟩

/-- What was collected less what was paid. -/
def balance (t : Tally) : Binary64 :=
  (t.collected.sub t.paid).nearestHundredth

/-- The tally with one more settlement. -/
def add (t : Tally) (s : Settlement) : Tally :=
  { t with
    collected := t.collected.add s.collected
    paid := t.paid.add s.pay
    plays := t.plays + 1 }

/-- The tally with both amounts rounded to cents. -/
def rounded (t : Tally) : Except Fault Tally := do
  let collected ← Money.ofDouble t.collected
  let paid ← Money.ofDouble t.paid
  .ok { t with collected, paid }

/-- Some tallies with one more settlement, in the tally of its key; a new key
comes at the end. -/
def enter (g : Grouping) (s : Settlement) : List Tally → List Tally
  | [] => [(opening g s).add s]
  | t :: ts => if t.key == g.key s.play then t.add s :: ts else t :: enter g s ts

/-- Tallies in order of their keys. -/
def sorted (tallies : List Tally) : Except Fault (List Tally) :=
  Sorting.sort (fun t u => t.key.before u.key) tallies

end Tally

namespace Settlement

/-- The tallies of some settlements, in the order in which their keys first
came. -/
def group (g : Grouping) (ss : List Settlement) : Except Fault (List Tally) := do
  let tallies ← ss.foldlM (fun tallies s => do
    let _ ← g.asKey s.play
    .ok (Tally.enter g s tallies)) []
  tallies.mapM Tally.rounded

end Settlement

/-- What some settlements come to. -/
structure Summary where
  collected : Binary64
  paid : Binary64
  balance : Binary64
  deriving DecidableEq

namespace Settlement

/-- The summary of some settlements. -/
def summarize (ss : List Settlement) : Except Fault Summary := do
  let collected := Binary64.sum (ss.map fun s => s.collected)
  let paid := Binary64.sum (ss.map fun s => s.pay)
  let c ← Money.ofDouble collected
  let p ← Money.ofDouble paid
  let b ← Money.ofDouble (collected.sub paid)
  .ok ⟨c, p, b⟩

end Settlement

namespace Play

/-- The tallies of some plays. -/
def aggregate (g : Grouping) (plays : List Play) (results : Results)
    (limited : LimitedNumbers) (prices : Option Price.Table) :
    Except Fault (List Tally) := do
  let ss ← settleAll plays results limited prices
  Settlement.group g ss

/-- The tallies of some plays by day, in order of the days. -/
def daily (plays : List Play) (results : Results) (limited : LimitedNumbers)
    (prices : Option Price.Table) : Except Fault (List Tally) := do
  let tallies ← aggregate .day plays results limited prices
  Tally.sorted tallies

end Play
end Lottery
