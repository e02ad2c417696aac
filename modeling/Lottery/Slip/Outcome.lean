/-
# Slips

A slip is a text with one bet per line, read by one of two grammars.  Its
lines are numbered from 1, blank ones left out.  Every line either becomes
instructions, one per wager, or an error; an error on one line leaves the
others alone.

A number is flagged as a duplicate if its key, the play type with the number,
stands at two places of the slip.  Under the grammar with "con" the two
spellings of a parle have one key.

| definition | function |
| --- | --- |
| `read (.dash locked)`, `read .con` | `parse_text`, `parse_con_text` |
| `readLines` | `_parse_lines` |
| `Grammar.key` | `_plain_key`, `_canonical_key` |
| `flag` | `_attach_duplicates` |
-/

import Lottery.Parle
import Lottery.Slip.ConLine
import Lottery.Slip.DashLine
import Lottery.Value.Basic

namespace Lottery
namespace Slip

/-- The two ways of writing a line. -/
inductive Grammar where
  /-- Dashes before the amounts; on a locked slip the amount of a line of pairs
  is shared among the pairs. -/
  | dash (locked : Bool)
  /-- The word "con" before the amounts. -/
  | con
  deriving DecidableEq

namespace Grammar

/-- The wagers of a line. -/
def line : Grammar → List Char → Except LineError (List Wager)
  | .dash locked => Dash.line locked
  | .con => Con.line

/-- What two numbers have in common if they are the same bet. -/
def key : Grammar → PlayType → String → PlayType × String
  | .con, .parle, n => (.parle, Parle.canonical n)
  | _, t, n => (t, n)

end Grammar

/-- A wager with the line that asks for it and its duplicate numbers. -/
structure Instruction extends Wager where
  line : Nat
  duplicates : List String
  deriving DecidableEq

/-- What a slip asks for, and what is wrong with it. -/
structure Outcome where
  instructions : List Instruction
  errors : List (Nat × LineError)
  deriving DecidableEq

namespace Outcome

/-- The outcome of an empty slip. -/
def empty : Outcome := ⟨[], []⟩

/-- The sum of the totals, for one schedule. -/
def perLotterySum (o : Outcome) : Nat :=
  o.instructions.foldr (fun i n => i.total + n) 0

/-- Is a line rejected? -/
def hasErrors (o : Outcome) : Bool :=
  !o.errors.isEmpty

end Outcome

/-- Lines from the number `n` on, read in order. -/
def readLines (g : Grammar) : Nat → List (List Char) → Outcome
  | _, [] => .empty
  | n, cs :: rest =>
    let o := readLines g (n + 1) rest
    match g.line cs with
    | .ok ws => { o with instructions := (ws.map fun w => ⟨w, n, []⟩) ++ o.instructions }
    | .error e => { o with errors := (n, e) :: o.errors }

/-- The keys of all numbers of some instructions, at every place. -/
def keys (g : Grammar) (is : List Instruction) : List (PlayType × String) :=
  is.flatMap fun i => i.numbers.map (g.key i.playType)

/-- An instruction with its duplicates among some keys flagged, each spelling
once. -/
def flag (g : Grammar) (all : List (PlayType × String)) (i : Instruction) : Instruction :=
  { i with
    duplicates :=
      (i.numbers.filter fun n => 1 < all.count (g.key i.playType n)).eraseDups }

/-- The outcome of a slip. -/
def read (g : Grammar) (text : String) : Outcome :=
  let o := readLines g 1 (Text.lines text.toList)
  { o with instructions := o.instructions.map (flag g (keys g o.instructions)) }

/-- The outcome of a value: a value that is no text is an empty slip. -/
def readValue (g : Grammar) : Value → Outcome
  | .text s => read g s
  | _ => .empty

end Slip
end Lottery
