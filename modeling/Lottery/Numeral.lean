/-
# Numerals

A numeral is the text of a number as people type it: blanks around it, decimal
digits of any script, single low lines between digits, and the words for
infinity and not a number.  `Numeral.double?` is the double nearest to the
number that is written.
-/

import Lottery.Binary64.Shortest
import Lottery.Text.Blank

namespace Lottery
namespace Numeral

/-- A character as numbers are read: ASCII as it is, any other blank a space,
any other decimal digit its ASCII digit. -/
def fold? (c : Char) : Option Char :=
  if c.toNat < 128 then some c
  else if Text.isBlank c then some ' '
  else (Text.digitValue? c).map fun d => Char.ofNat (48 + d)

/-- The ASCII blanks around a number; the separators `U+001C` … `U+001F` are not
among them. -/
def isMargin (c : Char) : Bool :=
  c == ' ' || (9 ≤ c.toNat && c.toNat ≤ 13)

/-- A text without its low lines, each of which has to stand between two digits;
the first argument tells whether a digit stands before the text. -/
def dropMarks? : Bool → List Char → Option (List Char)
  | _, [] => some []
  | afterDigit, '_' :: d :: cs =>
    if afterDigit && d.isDigit then (dropMarks? true cs).map (d :: ·) else none
  | _, ['_'] => none
  | _, c :: cs => (dropMarks? c.isDigit cs).map (c :: ·)

/-- The double that an infinity or a "nan" in any case writes. -/
def special? (cs : List Char) : Option Binary64 :=
  let (negative, word) := Decimal.takeSign cs
  let word := word.map Char.toLower
  if word == "inf".toList || word == "infinity".toList then some (.infinite negative)
  else if word == "nan".toList then some .nan
  else none

/-- The double that a text writes. -/
def double? (s : String) : Option Binary64 := do
  let folded ← s.toList.mapM fold?
  let cs ← dropMarks? false (Text.strip isMargin folded)
  match special? cs with
  | some x => some x
  | none => (Decimal.read? cs).map Binary64.ofDecimal

end Numeral
end Lottery
