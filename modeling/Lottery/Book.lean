/-
# The book of a session

A book holds the prices, the plays, the reported results, the limited numbers
and the limits of one session.  Steps change it or ask about it, one after the
other; a step that ends in a fault keeps what it had already changed.

A slip is taken whole or not at all: its instructions become plays, one for
each schedule, if none of its stakes exceeds a limit.  The limits of play types
are answered with as they stand when the book is closed.
-/

import Lottery.Exposure.Limits
import Lottery.Play.Grouping

namespace Lottery

/-- The state of a session. -/
structure Book where
  prices : Price.Table
  plays : List Play
  rows : List ResultRow
  limited : LimitedNumbers
  limits : Exposure.Limits

/-- A slip brought to the book. -/
structure BetSlip where
  grammar : Slip.Grammar
  text : Value
  schedules : Value
  day : Value
  lottery : Value
  schedule : Value
  agent : Value

namespace Book

/-- The book at the start of a session. -/
def opening : Book :=
  ⟨.reference, [], [], [], .none⟩

/-- A step of a session. -/
inductive Step where
  /-- Validates a price table and takes it into use. -/
  | prices (raw : Value)
  /-- Replaces the limited numbers of a schedule. -/
  | limited (schedule numbers : Value)
  /-- Reports a result. -/
  | result (row : ResultRow)
  /-- Sets the limit of a number. -/
  | limit (schedule playType number amount : Value)
  /-- Sets the limit of a play type. -/
  | playTypeLimit (playType : String) (amount : Value)
  /-- Brings a slip. -/
  | bet (slip : BetSlip)
  /-- Records a play as it is. -/
  | play (p : Play)
  | usage
  | settle
  /-- Groups the settlements by the field that a word names. -/
  | group (name : Value)
  /-- Groups the settlements in a given way. -/
  | groupBy (g : Grouping)
  | daily

/-- The answer to a step. -/
inductive Answer where
  | prices (table : Price.Table)
  | limited (numbers : List Value)
  | results (all : Results)
  | limit (risk : Exposure.Risk)
  | playTypeLimits (all : Entries String Binary64)
  | bet (violations : List Exposure.Violation) (errors : List (Nat × LineError)) (plays : Nat)
  | play (plays : Nat)
  | usage (amounts : Exposure.Amounts)
  | settled (details : List Settlement) (summary : Summary)
  | groups (groups : List Tally)
  | fault (fault : Fault)

/-- A step's answer and the book after it; a fault leaves the book as it is. -/
def commit (b : Book) (outcome : Except Fault (Answer × Book)) : Answer × Book :=
  match outcome with
  | .ok r => r
  | .error f => (.fault f, b)

/-- The `n`th play of the book, for an instruction of a slip in a schedule. -/
def playOf (slip : BetSlip) (n : Nat) (i : Slip.Instruction) (s : Value) : Play where
  playType := .text i.playType.name
  numbers := .text (String.intercalate "," i.numbers)
  amount := .int i.each
  scheduleId := s
  day := slip.day
  total := .null
  lottery := slip.lottery
  schedule := slip.schedule
  agent := slip.agent
  id := .text ("p" ++ String.ofList (Text.ofNat n))

/-- The plays that a slip asks for in some schedules, the first of them the `n`th of
the book. -/
def playsOf (slip : BetSlip) (schedules : List Value) (n : Nat) (is : List Slip.Instruction) :
    List Play :=
  (is.flatMap fun i => schedules.map fun s => (i, s)).mapIdx fun k e =>
    playOf slip (n + k) e.1 e.2

/-- In no schedule a slip asks for no plays. -/
@[simp]
theorem playsOf_nil (slip : BetSlip) (n : Nat) (is : List Slip.Instruction) :
    playsOf slip [] n is = [] := by
  simp [playsOf]

/-- Takes a slip, or refuses it for its violations. -/
def take (b : Book) (slip : BetSlip) : Except Fault (Answer × Book) := do
  let o := Slip.readValue slip.grammar slip.text
  let wagers := o.instructions.map fun i => i.toWager
  -- Usage, schedules and violations are computed before anything is changed, so a fault takes
  -- nothing.
  let usage ← Exposure.usage b.plays
  let schedules ← Exposure.schedulesFor wagers slip.schedules
  let names ← schedules.mapM Value.written
  let found ← Exposure.violations wagers names b.limits usage
  let plays :=
    if found.isEmpty then b.plays ++ playsOf slip schedules (b.plays.length + 1) o.instructions
    else b.plays
  .ok (.bet found o.errors plays.length, { b with plays })

/-- The settlements of all plays. -/
def settlements (b : Book) : Except Fault (List Settlement) := do
  let results ← Results.ofRows b.rows
  Play.settleAll b.plays results b.limited (some b.prices)

/-- The limited numbers that a value lists, and the book with those of them that are
texts for a schedule. -/
def withLimited (b : Book) (schedule numbers : Value) : Except Fault (List Value × Book) := do
  let keys ← numbers.keys
  let key ← schedule.asKey
  .ok (keys, { b with limited := b.limited.put key (keys.filterMap Value.text?) })

/-- A step taken. -/
def apply (b : Book) : Step → Answer × Book
  | .prices raw => b.commit do
    let table ← Price.Table.build raw
    .ok (.prices table, { b with prices := table })
  -- The numbers stay limited even if they have no order to be answered in.
  | .limited schedule numbers =>
    match b.withLimited schedule numbers with
    | .error f => (.fault f, b)
    | .ok (keys, b) => b.commit do
      let sorted ← Sorting.sort Value.before keys
      .ok (.limited sorted, b)
  -- The row is kept before the rows are indexed, so it stays even if that fails.
  | .result row =>
    let b := { b with rows := b.rows ++ [row] }
    b.commit do
      let results ← Results.ofRows b.rows
      .ok (.results results.sorted, b)
  | .limit schedule playType number amount => b.commit do
    let risk ← Exposure.Risk.of schedule playType number
    let x ← amount.toDouble
    let risk ← risk.asKey
    .ok (.limit risk, { b with limits.numbers := b.limits.numbers.put risk x })
  -- What is answered are all limits of play types, as they then stand.
  | .playTypeLimit playType amount => b.commit do
    let x ← amount.toDouble
    let all := b.limits.playTypes.put playType x
    .ok (.playTypeLimits all, { b with limits.playTypes := all })
  | .bet slip => b.commit (b.take slip)
  | .play p =>
    let b := { b with plays := b.plays ++ [p] }
    (.play b.plays.length, b)
  | .usage => b.commit do
    let amounts ← Exposure.usage b.plays
    let amounts ← amounts.sorted
    .ok (.usage amounts, b)
  | .settle => b.commit do
    let ss ← b.settlements
    let summary ← Settlement.summarize ss
    .ok (.settled ss summary, b)
  | .group name => b.commit do
    let results ← Results.ofRows b.rows
    let g ← Grouping.ofValue name
    let groups ← Play.aggregate g b.plays results b.limited (some b.prices)
    .ok (.groups groups, b)
  | .groupBy g => b.commit do
    let results ← Results.ofRows b.rows
    let groups ← Play.aggregate g b.plays results b.limited (some b.prices)
    .ok (.groups groups, b)
  | .daily => b.commit do
    let results ← Results.ofRows b.rows
    let groups ← Play.daily b.plays results b.limited (some b.prices)
    .ok (.groups groups, b)

/-- The answers to some steps, and the book after them. -/
def run (b : Book) : List Step → List Answer × Book
  | [] => ([], b)
  | s :: ss =>
    let (a, b) := b.apply s
    let (as, b) := run b ss
    (a :: as, b)

/-- An answer as it reads once the book is closed. -/
def closing (b : Book) : Answer → Answer
  | .playTypeLimits _ => .playTypeLimits b.limits.playTypes
  | a => a

/-- The answers of a whole session. -/
def transcript (steps : List Step) : List Answer :=
  let (as, b) := opening.run steps
  as.map b.closing

end Book
end Lottery
