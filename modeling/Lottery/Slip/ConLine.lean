/-
# Lines with "con"

A line is a list of numbers, the word "con" in any case, and amounts:
`12 25 30 con 10f 5c 2p`.  Numbers stand apart by blanks, commas or
semicolons, and inside such a segment by points, stars or dashes.  A segment
may also be a command that stands for three-digit numbers:

| command | numbers |
| --- | --- |
| `c3xp` | 300, 311, 322, … 399 |
| `c3xd4` | 340, 341, … 349 |
| `c3xt4` | 304, 314, … 394 |
| `c3x12.34` | 312, 334 |

with `x` or `*` after the first digit.  Amounts stand apart by blanks; the
letters after the digits name the slot, and the last amount of a slot counts:

| letters | slot |
| --- | --- |
| none | plain: `centena`, `parle` or `tripleta`, by the width of the numbers |
| `f` | `fijo` |
| `c` | `corrido` |
| `p` | `parle` at this stake |
| `can` | `parle` at a share of this total |

| definition | function | reads |
| --- | --- | --- |
| `expand?` | `_expand_command` | a command |
| `leftNumbers` | `_con_numbers` | what stands before the word |
| `Amounts.read` | `_con_amounts` | what stands behind it |
| `twoDigits` | `_con_two_digit` | the wagers on numbers of two digits |
| `line` | `_parse_con_line` | a line |
-/

import Lottery.Slip.Amount
import Lottery.Text.Blank
import Lottery.Text.Word

namespace Lottery
namespace Slip
namespace Con

/-- What stands between two segments. -/
def isGap (c : Char) : Bool :=
  Text.isBlank c || c == ',' || c == ';'

/-- What stands between two numbers of a segment. -/
def isJoint (c : Char) : Bool :=
  c == '.' || c == '*' || c == '-'

/-! ### The word -/

/-- The pieces of a text between the words "con"; the first argument tells
whether a word character stands before the text. -/
def cut : Bool → List Char → List (List Char)
  | _, [] => [[]]
  | inWord, a :: b :: c :: rest =>
    -- The word has no word character in front of it and none behind.
    if !inWord && [a.toLower, b.toLower, c.toLower] == ['c', 'o', 'n'] &&
        !Text.startsInWord rest then
      [] :: cut true rest
    else Text.attach a (cut (Text.isWord a) (b :: c :: rest))
  | _, a :: rest => Text.attach a (cut (Text.isWord a) rest)

/-! ### Numbers -/

/-- The ten ASCII digits. -/
def tenDigits : List Char :=
  ['0', '1', '2', '3', '4', '5', '6', '7', '8', '9']

/-- Two-digit tails with one joint between each two. -/
def tails? : List Char → Option (List (List Char))
  | [a, b] => if a.isDigit && b.isDigit then some [[a, b]] else none
  | a :: b :: joint :: rest =>
    if a.isDigit && b.isDigit && isJoint joint then (tails? rest).map ([a, b] :: ·) else none
  | _ => none

/-- The numbers that a command stands for, by what follows its star. -/
def expandTail? (hundred : Char) : List Char → Option (List (List Char))
  | [kind] =>
    if kind.toLower == 'p' then some (tenDigits.map fun d => [hundred, d, d]) else none
  | [kind, d] =>
    if kind.toLower == 'd' && d.isDigit then some (tenDigits.map fun u => [hundred, d, u])
    else if kind.toLower == 't' && d.isDigit then some (tenDigits.map fun t => [hundred, t, d])
    -- Two digits are a list with one tail.
    else (tails? [kind, d]).map fun ts => ts.map (hundred :: ·)
  | tail => (tails? tail).map fun ts => ts.map (hundred :: ·)

/-- The numbers that a command stands for. -/
def expand? : List Char → Option (List (List Char))
  | c :: hundred :: star :: tail =>
    if c.toLower == 'c' && hundred.isDigit && (star.toLower == 'x' || star == '*') then
      expandTail? hundred tail
    else none
  | _ => none

/-- The numbers of a segment. -/
def segment (cs : List Char) : List (List Char) :=
  (expand? cs).getD (numbers (Text.words isJoint cs))

/-- The numbers of the part of a line before the word. -/
def leftNumbers (left : List Char) : List (List Char) :=
  (Text.words isGap left).flatMap segment

/-! ### Amounts -/

/-- What an amount is for. -/
inductive Slot where
  | plain
  | fijo
  | corrido
  | parle
  | locked
  deriving DecidableEq

namespace Slot

/-- The slot that the letters after an amount name. -/
def ofLetters? (letters : List Char) : Option Slot :=
  match letters.map Char.toLower with
  | [] => some .plain
  | ['f'] => some .fijo
  | ['c'] => some .corrido
  | ['p'] => some .parle
  | ['c', 'a', 'n'] => some .locked
  | _ => none

end Slot

/-- The amount in each slot. -/
structure Amounts where
  plain : Nat
  fijo : Nat
  corrido : Nat
  parle : Nat
  locked : Nat
  deriving DecidableEq

namespace Amounts

/-- No amount yet. -/
def zero : Amounts := ⟨0, 0, 0, 0, 0⟩

/-- The amount of one slot replaced. -/
def set (a : Amounts) (n : Nat) : Slot → Amounts
  | .plain => { a with plain := n }
  | .fijo => { a with fijo := n }
  | .corrido => { a with corrido := n }
  | .parle => { a with parle := n }
  | .locked => { a with locked := n }

/-- The amounts after one more token. -/
def add (a : Amounts) (token : List Char) : Except LineError Amounts :=
  let digits := token.takeWhile Char.isDigit
  match Slot.ofLetters? (token.dropWhile Char.isDigit) with
  | some slot =>
    -- Letters without digits in front write nothing.
    if digits.isEmpty then .error (.invalidToken (String.ofList token))
    else do
      let n ← amount digits
      .ok (a.set n slot)
  | none => .error (.invalidToken (String.ofList token))

/-- The amounts that the part of a line after the word asks for. -/
def read (right : List Char) : Except LineError Amounts :=
  (Text.words Text.isBlank right).foldlM add zero

end Amounts

/-! ### Lines -/

/-- The wagers on numbers of two digits. -/
def twoDigits (gs : List (List Char)) (a : Amounts) : Except LineError (List Wager) :=
  let ns := gs.map String.ofList
  let ps := (pairs gs).map String.ofList
  let straight : List Wager :=
    (if a.fijo = 0 then [] else [.staking .fijo ns a.fijo none]) ++
      (if a.corrido = 0 then [] else [.staking .corrido ns a.corrido none])
  -- The straight wagers are built before it is known whether the pairs are in order.
  if a.parle = 0 ∧ a.locked = 0 then
    if straight.isEmpty then .error .missingPlayType else .ok straight
  else if gs.length < 2 then .error .tooFewGroups
  else
    let unit : List Wager :=
      if a.parle = 0 then [] else [.staking .parle ps a.parle (some .pairs)]
    if a.locked = 0 then .ok (straight ++ unit)
    -- The stake on each pair would be zero.
    else if a.locked < ps.length then .error .lockedShareTooSmall
    else .ok (straight ++ unit ++ [.sharing .parle ps a.locked (some .lockedPairs)])

/-- The wager on numbers of a type with one amount. -/
def single (t : PlayType) (gs : List (List Char)) (a : Nat) (mode : Option Mode) :
    Except LineError (List Wager) :=
  if a = 0 then .error (.plainAmountRequired t)
  else .ok [.staking t (gs.map String.ofList) a mode]

/-- The wagers on some numbers at some amounts. -/
def wagers (gs : List (List Char)) (width : Nat) (a : Amounts) : Except LineError (List Wager) :=
  match width with
  | 2 => twoDigits gs a
  | 3 => single .centena gs a.plain none
  | 4 => single .parle gs (if a.plain = 0 then a.parle else a.plain) (some .direct)
  | 6 => single .tripleta gs a.plain none
  | _ => .error .unsupportedWidth

/-- The wagers of a line; of several words "con" the first divides it. -/
def line (cs : List Char) : Except LineError (List Wager) :=
  match cut false cs with
  | first :: second :: more =>
    let left := Text.trim first
    -- What comes behind a second word "con" is put back, as a token that spoils the line.
    let right := Text.trim (List.intercalate " con ".toList (second :: more))
    if left.isEmpty then .error .noNumbers
    else if right.isEmpty then .error .noAmounts
    else
      let found := leftNumbers left
      if found.isEmpty then .error .noValidNumbers
      else match commonWidth? found with
        | none => .error .mixedWidths
        | some width => do
          -- Amounts are read only if the numbers are in order.
          let a ← Amounts.read right
          wagers found width a
  | _ => .error .missingCon

end Con
end Slip
end Lottery
