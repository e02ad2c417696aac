/-
# Lines with dashes

| line | asks for |
| --- | --- |
| `12 34-5` | `fijo` at 5 |
| `12 34-5-3` | `fijo` at 5 and `corrido` at 3; a zero amount asks for nothing |
| `123 456-5` | `centena` at 5 |
| `1234-5` | `parle`, the numbers as they stand, at 5 |
| `123456-5` | `tripleta` at 5 |
| `12*34*56-9` | `parle`, all pairs of the groups, at 9; on a locked slip 9 is shared |

Numbers stand apart by blanks, points or commas.  A line with `*` anywhere is
a line of pairs: its groups stand between the stars before the first dash, one
digit is filled up to two, and its amount is what stands between the first two
dashes.

| definition | function | reads |
| --- | --- | --- |
| `pairsLine` | `_parse_pairs_line` | a line of pairs |
| `plainLine` | the rest of `_parse_dash_line` | any other line |
| `line` | `_parse_dash_line` | a line |
-/

import Lottery.Slip.Amount
import Lottery.Text.Blank

namespace Lottery
namespace Slip
namespace Dash

/-- What stands between two numbers. -/
def isGap (c : Char) : Bool :=
  Text.isBlank c || c == '.' || c == ','

/-- A single digit filled up to two. -/
def fill : List Char → List Char
  | [d] => ['0', d]
  | ds => ds

/-- The groups of two digits of the part of a line before its first dash. -/
def groups (left : List Char) : List (List Char) :=
  ((numbers (Text.pieces (· == '*') left)).map fill).filter fun g => g.length == 2

/-- The wager of a line with `*`. -/
def pairsLine (locked : Bool) (line : List Char) : Except LineError Wager :=
  match Text.pieces (· == '-') line with
  | left :: piece :: _ =>
    -- The piece has to be there, but need not have digits: then the amount is zero.
    if piece.isEmpty then .error .missingPairAmount
    else do
      let a ← amount piece
      let gs := groups left
      if gs.length < 2 then .error .tooFewGroups
      else if a = 0 then .error (.zeroAmount .parle)
      else
        let ns := (pairs gs).map String.ofList
        if locked then
          -- The share of each pair would be zero.
          if a < ns.length then .error .shareTooSmall
          else .ok (.sharing .parle ns a (some .pairs))
        else .ok (.staking .parle ns a (some .pairs))
  | _ => .error .missingPairAmount

/-- The wagers on numbers of two digits: each amount that is not zero asks for
one. -/
def twoDigits (ns : List String) (first second : Nat) : Except LineError (List Wager) :=
  if first = 0 ∧ second = 0 then .error .bothZero
  else .ok ((if first = 0 then [] else [.staking .fijo ns first none]) ++
    (if second = 0 then [] else [.staking .corrido ns second none]))

/-- The wager on numbers of a type with one amount. -/
def single (t : PlayType) (ns : List String) (a : Nat) (mode : Option Mode) :
    Except LineError (List Wager) :=
  if a = 0 then .error (.zeroAmount t) else .ok [.staking t ns a mode]

/-- The wagers of a line without `*`. -/
def plainLine (line : List Char) : Except LineError (List Wager) :=
  match ((Text.pieces (· == '-') line).map Text.trim).filter fun p => !p.isEmpty with
  | left :: piece :: more => do
    let found := numbers (Text.words isGap left)
    if found.isEmpty then .error .noNumbers
    else match commonWidth? found with
      | none => .error .mixedWidths
      | some width => do
        let first ← amount piece
        let ns := found.map String.ofList
        match width with
        | 2 => do
          -- A second amount is read for two digits only, and whatever follows it is left alone.
          let second ← match more with
            | [] => .ok 0
            | piece :: _ => amount piece
          twoDigits ns first second
        | 3 => single .centena ns first none
        | 4 => single .parle ns first (some .direct)
        | 6 => single .tripleta ns first none
        | _ => .error .unsupportedWidth
  | _ => .error .missingDash

/-- The wagers of a line. -/
def line (locked : Bool) (cs : List Char) : Except LineError (List Wager) :=
  if cs.contains '*' then (pairsLine locked cs).map fun w => [w] else plainLine cs

end Dash
end Slip
end Lottery
