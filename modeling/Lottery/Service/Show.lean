/-
# What answers are made of

Draws, instructions, settlements, tallies and violations as values, in the form
in which the service answers with them.

`draw` is `_draw_payload`, `tally` is `_group_payload`, and `instruction` is one element of
`_instructions_payload`.
-/

import Lottery.Exposure.Limits
import Lottery.Play.Grouping

namespace Lottery
namespace Service
namespace Show

/-- A list of texts. -/
def texts (ss : List String) : Value :=
  .list (ss.map .text)

/-- A draw taken apart. -/
def draw (d : Draw) : Value :=
  .object [
    ("raw", .text d.text),
    ("pick3", .text (String.ofList d.threeDigits)),
    ("pick4", .text (String.ofList d.fourDigits)),
    ("fijo", .text d.first.text),
    ("corridos", texts [d.second.text, d.third.text]),
    ("centena", .text (String.ofList d.threeDigits)),
    ("parle_winners", texts (d.winners .parle)),
    ("tripleta_winners", texts (d.winners .tripleta))]

/-- The particulars of a wager beyond its numbers and amounts, by name. -/
def particulars (w : Wager) : List (String × Value) :=
  (match w.mode with
    | some m => [("mode", .text m.name)]
    | none => []) ++
  (match w.writtenTotal? with
    | some n => [("original_total", .int n)]
    | none => [])

/-- The fields of an instruction. -/
def instructionFields (i : Slip.Instruction) : List (String × Value) := [
  ("play_type", .text i.playType.name),
  ("numbers", texts i.numbers),
  ("amount_each", .int i.each),
  ("total_per_lottery", .int i.total),
  ("line", .int i.line),
  ("duplicates", texts i.duplicates)]

/-- An instruction. -/
def instruction (i : Slip.Instruction) : Value :=
  .object (instructionFields i ++ [("meta", .object (particulars i.toWager))])

/-- The error of a line. -/
def lineError (e : Nat × LineError) : Value :=
  .object [("line", .int e.1), ("message", .text e.2.message)]

/-- A tally. -/
def tally (t : Tally) : Value :=
  .object [
    ("key", t.key),
    ("label", t.label),
    ("collected", .real t.collected),
    ("paid", .real t.paid),
    ("balance", .real t.balance),
    ("plays", .int t.plays)]

/-- A summary. -/
def summary (s : Summary) : Value :=
  .object [
    ("collected", .real s.collected),
    ("paid", .real s.paid),
    ("balance", .real s.balance)]

/-- A violation. -/
def violation (v : Exposure.Violation) : Value :=
  .object [
    ("number", .text v.number),
    ("play_type", .text v.playType.name),
    ("schedule_id", .text v.schedule),
    ("allowed", .real v.allowed),
    ("used", .real v.used),
    ("attempt", .int v.attempt)]

end Show
end Service
end Lottery
