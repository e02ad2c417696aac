/-
# Decimal numbers

A decimal number is a sign, a coefficient and an exponent of ten; zero keeps
its sign.  As text it is an optional sign, digits with at most one point among
or beside them, and an optional exponent: `12`, `-1.5`, `.5`, `5.`, `1e-3`.
-/

import Lottery.Text.Digit

namespace Lottery

/-- The number `± coefficient × 10 ^ exponent`. -/
structure Decimal where
  negative : Bool
  coefficient : Nat
  exponent : Int
  deriving DecidableEq

namespace Decimal

/-- The decimal of an integer. -/
def ofInt (n : Int) : Decimal :=
  ⟨decide (n < 0), n.natAbs, 0⟩

/-- How many digits stand before the point: a number that is not zero is below
ten to this power and not below the power before. -/
def pointPlace (d : Decimal) : Int :=
  (Text.digitCount d.coefficient : Int) + d.exponent

/-- An optional sign: is it a minus, and what follows. -/
def takeSign : List Char → Bool × List Char
  | '-' :: cs => (true, cs)
  | '+' :: cs => (false, cs)
  | cs => (false, cs)

/-- The exponent that the end of a number writes; no text writes 0. -/
def exponent? : List Char → Option Int
  | [] => some 0
  | e :: cs =>
    if e == 'e' || e == 'E' then
      let (negative, ds) := takeSign cs
      -- A mark without digits behind it is no exponent, so the text is no number.
      if ds.isEmpty || !ds.all Char.isDigit then none
      else some (if negative then -(Text.toNat ds : Int) else Text.toNat ds)
    else none

/-- The digits after a point, if a point is next, and what follows. -/
def takeFraction : List Char → List Char × List Char
  | '.' :: cs => (cs.takeWhile Char.isDigit, cs.dropWhile Char.isDigit)
  | cs => ([], cs)

/-- The number that a text writes. -/
def read? (cs : List Char) : Option Decimal :=
  let (negative, cs) := takeSign cs
  let whole := cs.takeWhile Char.isDigit
  let (fraction, rest) := takeFraction (cs.dropWhile Char.isDigit)
  if whole.isEmpty && fraction.isEmpty then none
  else (exponent? rest).map fun e =>
    ⟨negative, Text.toNat (whole ++ fraction), e - (fraction.length : Int)⟩

example : read? "-1.50e3".toList = some ⟨true, 150, 1⟩ := by decide
example : read? ".".toList = none ∧ read? "1e".toList = none := by decide
example : read? "5.".toList = some ⟨false, 5, 0⟩ := by decide

end Decimal
end Lottery
