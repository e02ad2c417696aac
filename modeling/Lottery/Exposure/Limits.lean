/-
# Limits

A number may have a limit of its own, and its play type one for the agent; the
smaller of the two counts, and a limit of zero is none.  A bet breaks a limit
where the stake it puts on a number, added to what is already staked, exceeds
it.  Each number of each wager is judged by itself, once for each schedule.

| definition | function | gives |
| --- | --- | --- |
| `Limits.smaller` | `_effective_limit` | the smaller of the limits that there are |
| `Limits.effective?` | the test behind it | that limit, none if it is zero |
| `Attempt.ofWager` | the loops of `check_instruction_limits` | what a wager puts on each number and schedule |
| `Attempt.violation?` | the comparison in it | the violation, if there is one |
| `violations` | `check_instruction_limits` | all violations, in the order of the attempts |
-/

import Lottery.Exposure.Usage
import Lottery.Slip.Outcome

namespace Lottery
namespace Exposure

/-- The limits of single numbers and those of play types. -/
structure Limits where
  numbers : Amounts
  playTypes : Entries String Binary64

namespace Limits

/-- No limits. -/
def none : Limits := ⟨[], []⟩

/-- The limit of a play type. -/
def ofPlayType? (l : Limits) (t : PlayType) : Option Binary64 :=
  l.playTypes.lookup t.name

/-- The smaller of the limits that there are. -/
def smaller : Option Binary64 → Option Binary64 → Option Binary64
  | some x, some y => some (x.least y)
  | some x, .none => some x
  | .none, y => y

/-- The limit that counts for a risk: the smaller one there is, provided it is
not zero. -/
def effective? (l : Limits) (t : PlayType) (r : Risk) : Option Binary64 :=
  (smaller (l.numbers.lookup r) (l.ofPlayType? t)).filter fun x => !x.isZero

end Limits

/-- A stake that a wager puts on one of its numbers in one schedule. -/
structure Attempt where
  playType : PlayType
  number : String
  schedule : String
  stake : Nat
  deriving DecidableEq

/-- A stake that exceeds a limit, with what was staked before it. -/
structure Violation where
  number : String
  playType : PlayType
  schedule : String
  allowed : Binary64
  used : Binary64
  attempt : Nat
  deriving DecidableEq

namespace Attempt

/-- The risk of an attempt. -/
def risk (a : Attempt) : Risk :=
  ⟨a.schedule, .text a.playType.name,
    .text (if a.playType = .parle then Parle.canonical a.number else a.number)⟩

/-- The attempts of a wager, by number in order of first occurrence, then by
schedule; a number that is repeated is staked on as often. -/
def ofWager (schedules : List String) (w : Wager) : List Attempt :=
  w.numbers.eraseDups.flatMap fun n =>
    schedules.map fun s => ⟨w.playType, n, s, w.each * w.numbers.count n⟩

/-- The violation of an attempt, if it is one. -/
def violation? (l : Limits) (usage : Amounts) (a : Attempt) :
    Except Fault (Option Violation) :=
  match l.effective? a.playType a.risk with
  | none => .ok none
  | some allowed => do
    let used := usage.get a.risk
    -- Without a limit this is not reached, so a stake beyond the doubles is no fault there.
    let stake ← Value.doubleOfInt a.stake
    .ok (if allowed.lt (used.add stake) then
      some ⟨a.number, a.playType, a.schedule, allowed, used, a.stake⟩ else none)

end Attempt

/-- The schedules that some wagers are for, as a value lists them; it is looked at
only if there is a wager. -/
def schedulesFor (ws : List Wager) (schedules : Value) : Except Fault (List Value) :=
  if ws.isEmpty then .ok [] else schedules.elements

/-- The violations of some wagers in some schedules. -/
def violations (ws : List Wager) (schedules : List String) (l : Limits) (usage : Amounts) :
    Except Fault (List Violation) := do
  let found ← (ws.flatMap (Attempt.ofWager schedules)).mapM (Attempt.violation? l usage)
  .ok (found.filterMap id)

end Exposure
end Lottery
