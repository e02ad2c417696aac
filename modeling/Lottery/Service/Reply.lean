/-
# Replies

What each view makes of a payload.  First the fields are read, each in its own
way; then the view gives its answer, or refuses; and what it gives back is a
status with a JSON value (`View.reply`):

| status | value | when |
| ---: | --- | --- |
| 200 | the answer | |
| 400 | an explanation | the request breaks a rule of the service |
| 404 | an explanation | the grouping is none |

A fault that nothing explains escapes the view: then it gives nothing back.

| view | reads |
| --- | --- |
| `parseResult` (`parse_result_view`) | `raw` |
| `parseBets` (`parse_bets_view`) | `text`, `syntax`, `locked` |
| `evaluateBet` (`evaluate_bet_view`) | `prices`, `bet`, `limited`, `result` |
| `stats` (`statistics_view`) | `prices`, `plays`, `results`, `limited` |
| `checkLimits` (`check_limits_view`) | `text`, `syntax`, `locked`, `schedules`, `limits`, `agent_limits`, `plays` |
-/

import Lottery.Price.File
import Lottery.Service.Request
import Lottery.Service.Show
import Lottery.Service.View
import Lottery.Text.Blank

namespace Lottery
namespace Service

/-! ### Reading the fields -/

/-- The price table of a request: its own, or the one in use (`_price_table`). -/
def pricesOf (s : Price.Surroundings) (fields : List (String × Value)) :
    Except Refusal Price.Table :=
  match Value.get fields "prices" with
  | .null => (orRefuse .ofPrices (Price.Table.inUse s)).map fun r => r.1
  | v => orRefuse .ofPrices (Price.Table.build v)

/-- The limited numbers of a request, by schedule (`_limited_sets`).  What is no object is refused
with an explanation; a schedule whose numbers are no collection is a fault. -/
def limitedOf (fields : List (String × Value)) : Except Refusal LimitedNumbers :=
  match (Value.get fields "limited").orElse (.object []) with
  | .object schedules => orRefuse .failed (schedules.mapM fun f => do
      let ns ← (f.2.orElse (.list [])).elements
      let ns ← ns.mapM Value.written
      .ok (.text f.1, ns))
  | _ => .error (.explained "'limited' must map schedule ids to number lists.")

/-- The amount and the total of a play. -/
def amountsOf (fields : List (String × Value)) : Except Fault (Value × Value) := do
  let amount ← (Value.get fields "amount").amount
  match Value.get fields "total" with
  | .null => .ok (.real amount, .null)
  | v => do
    let total ← v.toDouble
    .ok (.real amount, .real total)

/-- The play of a row of a request (`_play_record`).  An amount or total that is no number is
explained, one that is beyond the doubles is not. -/
def playOf : Value → Except Refusal Play
  | .object fields => do
    let id ← orRefuse .failed (textOf fields "id")
    let (amount, total) ← orRefuse
      -- Every fault of the amounts is explained, but for an integer beyond the doubles.
      (fun f => match f with
        | .beyondDoubles => .failed .beyondDoubles
        | _ => .explained
          (String.ofList (Text.trim ("Invalid amount in play ".toList ++ id.toList))))
      (amountsOf fields)
    orRefuse .failed (do
      let playType ← presentTextOf fields "play_type"
      let numbers ← presentTextOf fields "numbers"
      let scheduleId ← textOf fields "schedule_id"
      let day ← textOf fields "day"
      let lottery ← presentTextOf fields "lottery"
      let schedule ← presentTextOf fields "schedule"
      let agent ← presentTextOf fields "agent"
      let id ← presentTextOf fields "id"
      .ok {
        playType := .text playType
        numbers := .text numbers
        amount
        scheduleId := .text scheduleId
        day := .text day
        total
        lottery := .text lottery
        schedule := .text schedule
        agent := .text agent
        id := .text id })
  | _ => .error (.explained "Each play must be a JSON object.")

/-- The plays of a request (`_play_records`). -/
def playsOf (fields : List (String × Value)) : Except Refusal (List Play) :=
  match (Value.get fields "plays").orElse (.list []) with
  | .list rows => rows.mapM playOf
  | _ => .error (.explained "'plays' must be a list.")

/-- The result that a row of a request reports, none if it is no object. -/
def resultOf? : Value → Except Fault (Option ResultRow)
  | .object fields => do
    let schedule ← textOf fields "schedule_id"
    let day ← textOf fields "day"
    .ok (some ⟨.text schedule, .text day, Value.get fields "raw"⟩)
  | _ => .ok none

/-- The results of a request (`_result_rows`, `index_results`). -/
def resultsOf (fields : List (String × Value)) : Except Refusal Results :=
  match (Value.get fields "results").orElse (.list []) with
  | .list rows => orRefuse .failed (do
      let found ← rows.mapM resultOf?
      Results.ofRows (found.filterMap id))
  | _ => .error (.explained "'results' must be a list.")

/-- The outcome of the slip of a request (`_parse_bet_text`). -/
def slipOf (fields : List (String × Value)) : Except Refusal Slip.Outcome := do
  let grammar ← orRefuse .failed (((Value.get fields "syntax").orElse (.text "dash")).written)
  let text := (Value.get fields "text").orElse (.text "")
  if grammar == "con" then .ok (Slip.readValue .con text)
  else if grammar == "dash" then
    .ok (Slip.readValue (.dash (Value.get fields "locked").isPresent) text)
  else .error (.explained ("Unsupported syntax: " ++ grammar))

/-- The limit that a row of a request sets, none if it is no object. -/
def limitOf? : Value → Except Fault (Option (Exposure.Risk × Binary64))
  | .object fields => do
    let schedule ← textOf fields "schedule_id"
    let playType ← textOf fields "play_type"
    let number ← textOf fields "number"
    let risk ← Exposure.Risk.of (.text schedule) (.text playType) (.text number)
    let limit ← (Value.get fields "limit").amount
    .ok (some (risk, limit))
  -- A row that is no object is passed over.
  | _ => .ok none

/-- The limits of single numbers of a request. -/
def numberLimitsOf (fields : List (String × Value)) : Except Fault Exposure.Amounts := do
  let rows ← elementsOf fields "limits"
  let found ← rows.mapM limitOf?
  .ok ((found.filterMap id).foldl (fun (a : Exposure.Amounts) e => a.put e.1 e.2) [])

/-- The limits of play types of a request. -/
def playTypeLimitsOf (fields : List (String × Value)) :
    Except Fault (Entries String Binary64) :=
  match (Value.get fields "agent_limits").orElse (.object []) with
  | .object limits => limits.mapM fun f => do
      let x ← f.2.toDouble
      .ok (f.1, x)
  | v => .error (.noEntries v.kind)

/-! ### Answers -/

namespace Answer

/-- That the service runs. -/
def health : Value :=
  .object [("status", .text "ok")]

/-- The play types and the words for a status. -/
def playTypes : Value :=
  .object [
    ("play_types", .list (PlayType.all.map fun t =>
      .object [("play_type", .text t.name), ("digits", .int t.digits)])),
    ("statuses", Show.texts ([Status.won, .lost, .noResult].map Status.name))]

/-- A draw taken apart. -/
def parseResult (fields : List (String × Value)) : Value :=
  .object [("result", match Draw.ofValue? (Value.get fields "raw") with
    | some d => Show.draw d
    | none => .null)]

/-- A slip. -/
def parseBets (fields : List (String × Value)) : Except Refusal Value := do
  let o ← slipOf fields
  .ok (.object [
    ("instructions", .list (o.instructions.map Show.instruction)),
    ("errors", .list (o.errors.map Show.lineError)),
    ("per_lottery_sum", .int o.perLotterySum)])

/-- The prize of a bet. -/
def evaluateBet (s : Price.Surroundings) (fields : List (String × Value)) :
    Except Refusal Value := do
  let prices ← pricesOf s fields
  match (Value.get fields "bet").orElse (.object []) with
  | .object bet => do
    let playType ← orRefuse .failed (presentTextOf bet "play_type")
    let b : Bet := ⟨.text playType, (Value.get bet "numbers").orElse (.text ""),
      (Value.get bet "amount").orElse (.int 0)⟩
    match (Value.get fields "limited").orElse (.list []) with
    | .list limited => orRefuse .failed (do
        -- From here on nothing is explained: a fault escapes the view.
        let d := Draw.ofValue? (Value.get fields "result")
        let limited ← limited.mapM Value.written
        let prize ← Bet.evaluate (some b) d limited (some prices)
        let status := if d.isNone then Status.noResult
          else if prize.won then .won else .lost
        .ok (.object [
          ("has_prize", .bool prize.won),
          ("pay", .real prize.pay),
          ("status", .text status.name)]))
    | _ => .error (.explained "'limited' must be a list of numbers.")
  | _ => .error (.explained "'bet' must be a JSON object.")

/-- The groups and the summary of some plays. -/
def stats (s : Price.Surroundings) (word : String) (g : Grouping)
    (fields : List (String × Value)) : Except Refusal Value := do
  let prices ← pricesOf s fields
  let plays ← playsOf fields
  let results ← resultsOf fields
  let limited ← limitedOf fields
  orRefuse .failed (do
    let ss ← Play.settleAll plays results limited (some prices)
    let groups ← Settlement.group g ss
    -- Only days are put in order; other groups stay as they first came.
    let groups ← match g with
      | .day => Tally.sorted groups
      | _ => .ok groups
    let summary ← Settlement.summarize ss
    .ok (.object [
      ("grouping", .text word),
      ("groups", .list (groups.map Show.tally)),
      ("summary", Show.summary summary)]))

/-- The violations of a slip. -/
def checkLimits (fields : List (String × Value)) : Except Refusal Value := do
  let o ← slipOf fields
  let schedules ← orRefuse .ofInput (do
    let vs ← elementsOf fields "schedules"
    vs.mapM Value.written)
  let numbers ← orRefuse .ofInput (numberLimitsOf fields)
  let playTypes ← orRefuse .ofInput (playTypeLimitsOf fields)
  let plays ← playsOf fields
  let usage ← orRefuse .ofInput (Exposure.usage plays)
  -- A fault of judging escapes the view; those of reading are explained, unless something is
  -- beyond a bound.
  let found ← orRefuse .failed
    (Exposure.violations (o.instructions.map fun i => i.toWager) schedules
      ⟨numbers, playTypes⟩ usage)
  .ok (.object [
    ("violations", .list (found.map Show.violation)),
    ("errors", .list (o.errors.map Show.lineError))])

end Answer

/-! ### Replies -/

/-- What a view gives back: a status, and the value of the body. -/
structure Reply where
  status : Nat
  body : Value

namespace Reply

/-- A reply that explains itself, `_bad_request`. -/
def explained (status : Nat) (message : String) : Reply :=
  ⟨status, .object [("error", .text message)]⟩

/-- The reply for an answer or a refusal; a fault that is not explained escapes. -/
def of : Except Refusal Value → Except Fault Reply
  | .ok v => .ok ⟨200, v⟩
  | .error (.explained message) => .ok (explained 400 message)
  | .error (.failed f) => .error f

end Reply

/-- What a view gives back for a payload. -/
def View.reply (s : Price.Surroundings) (payload : Except Fault Value) :
    View → Except Fault Reply
  | .health => .ok ⟨200, Answer.health⟩
  | .playTypes => .ok ⟨200, Answer.playTypes⟩
  | .parseResult => Reply.of ((fieldsOf payload).map Answer.parseResult)
  | .parseBets => Reply.of (fieldsOf payload >>= Answer.parseBets)
  | .evaluateBet => Reply.of (fieldsOf payload >>= Answer.evaluateBet s)
  | .stats word =>
    -- A grouping that is none is refused before the payload is looked at.
    match Grouping.ofName? word with
    | some g => Reply.of (fieldsOf payload >>= Answer.stats s word g)
    | none => .ok (.explained 404 (Fault.unknownGrouping word).message)
  | .checkLimits => Reply.of (fieldsOf payload >>= Answer.checkLimits)

end Service
end Lottery
