/-
# What is staked on a number

A number of a schedule and a play type is one risk, and both spellings of a
parle are the same one.  The usage of some plays is the sum of their amounts
for each risk, an amount counted once for each time the number stands in the
play.

| definition | function | gives |
| --- | --- | --- |
| `Risk.of` | `limit_key` | the risk, a parle in its canonical spelling |
| `addPlay`, `addNumber` | the two loops of `usage_from_plays` | the amounts with one play, one number more |
| `usage` | `usage_from_plays` | the amounts of all plays |

Amounts are added as doubles in the order of the plays, so another order of the
same plays may give other sums.
-/

import Lottery.Entries
import Lottery.Play.Basic
import Lottery.Sorting
import Lottery.Value.Key

namespace Lottery
namespace Exposure

/-- A number of a play type in a schedule. -/
structure Risk where
  schedule : String
  playType : Value
  number : Value

namespace Risk

/-- The text of the canonical spelling of a number of a parle, if the number is
a text; null and whatever else is empty is no number. -/
def spelling : Value → Except Fault Value
  | .text s => .ok (.text (Parle.canonical s))
  -- Halves are exchanged of whatever has four parts, and compared as such.
  | .list [a, b, c, d] => do
    let swapped ← Value.before (.list [c, d, a, b]) (.list [a, b, c, d])
    .ok (.list (if swapped then [c, d, a, b] else [a, b, c, d]))
  -- An object of four fields would be cut in two, which objects cannot be.
  | .object fields =>
    if fields.isEmpty then .ok (.text "")
    else if fields.length = 4 then .error (.notAKey .object)
    else .ok (.object fields)
  | .list vs => .ok (if vs.isEmpty then .text "" else .list vs)
  | v => if v.isPresent then .error (.noLength v.kind) else .ok (.text "")

/-- The risk of a number. -/
def of (schedule playType number : Value) : Except Fault Risk := do
  let number ←
    if playType == .text PlayType.parle.name then spelling number else .ok number
  let name ← schedule.written
  .ok ⟨name, playType, number⟩

/-- Risks are compared as keys are, so play types and numbers that are equal as numbers count as
one. -/
instance : BEq Risk :=
  ⟨fun r s => r.schedule == s.schedule && (r.playType == s.playType && r.number == s.number)⟩

/-- Risks are equal part by part. -/
theorem beq_iff {r s : Risk} : (r == s) = true ↔
    r.schedule = s.schedule ∧ (r.playType == s.playType) = true ∧
      (r.number == s.number) = true := by
  show (r.schedule == s.schedule && (r.playType == s.playType && r.number == s.number)) = true ↔ _
  rw [Bool.and_eq_true, Bool.and_eq_true, beq_iff_eq]

/-- Like equality of keys this is symmetric and transitive; a risk whose play type or number is a
list or an object is not equal to itself. -/
instance : PartialEquivBEq Risk where
  symm h := by
    obtain ⟨hs, ht, hn⟩ := beq_iff.1 h
    exact beq_iff.2 ⟨hs.symm, BEq.symm ht, BEq.symm hn⟩
  trans h h' := by
    obtain ⟨hs, ht, hn⟩ := beq_iff.1 h
    obtain ⟨hs', ht', hn'⟩ := beq_iff.1 h'
    exact beq_iff.2 ⟨hs.trans hs', BEq.trans ht ht', BEq.trans hn hn'⟩

/-- A risk, provided it can be looked up. -/
def asKey (r : Risk) : Except Fault Risk := do
  let _ ← r.playType.asKey
  let _ ← r.number.asKey
  .ok r

end Risk

/-- Amounts by risk. -/
abbrev Amounts := Entries Risk Binary64

/-- The amount of a risk, zero if it has none. -/
def Amounts.get (a : Amounts) (r : Risk) : Binary64 :=
  (a.lookup r).getD (.zero false)

/-- The usage with one number of a play added. -/
def addNumber (p : Play) (usage : Amounts) (number : String) : Except Fault Amounts := do
  let risk ← Risk.of p.scheduleId p.playType (.text number)
  let risk ← risk.asKey
  let stake ← p.amount.amount
  .ok (usage.put risk ((usage.get risk).add stake))

/-- The usage with one play added. -/
def addPlay (usage : Amounts) (p : Play) : Except Fault Amounts := do
  let numbers ← Numbers.ofValue p.numbers
  numbers.foldlM (addNumber p) usage

/-- The usage of some plays. -/
def usage (plays : List Play) : Except Fault Amounts :=
  plays.foldlM addPlay []

/-- Does the first risk come strictly before the second, by schedule, play type
and number? -/
def Risk.before (r s : Risk) : Except Fault Bool :=
  if r.schedule != s.schedule then .ok (Text.before r.schedule s.schedule)
  else if r.playType != s.playType then r.playType.before s.playType
  else r.number.before s.number

/-- The amounts in order of their risks. -/
def Amounts.sorted (a : Amounts) : Except Fault Amounts :=
  Sorting.sort (fun e f => e.1.before f.1) a

end Exposure
end Lottery
