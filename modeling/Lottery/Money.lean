/-
# Amounts of money in cents

An amount is rounded to whole cents from its exact decimal, a half going away
from zero, and kept as the double nearest to those cents.  The decimal of a
double is its shortest one.  An amount of more than 28 digits in cents is a
fault; a value that is no finite number counts as 0.

`Money.round` is `round_money`.  It is the only place where amounts are rounded,
but for the balance of a tally.
-/

import Lottery.Numeral
import Lottery.Value.Number

namespace Lottery
namespace Money

/-- The greatest number of digits of an amount in cents. -/
def maxDigits : Nat := 28

/-- The least exponent of a decimal that is read as an amount. -/
def leastExponent : Int := -1999999999999999997

/-- The greatest exponent of the leading digit of a decimal that is read as an
amount. -/
def greatestPlace : Int := 999999999999999999

/-- The whole number of cents nearest to the size of a decimal, a half upwards;
none if it has too many digits. -/
def cents? (d : Decimal) : Option Nat :=
  if d.coefficient = 0 then some 0
  else if (maxDigits : Int) < d.pointPlace + 2 then none
  else if d.pointPlace + 2 < 0 then some 0
  else
    -- A half is added before the division by twice the unit, so a half goes up.
    let n := match d.exponent + 2 with
      | .ofNat k => d.coefficient * Nat.pow 10 k
      | .negSucc k =>
        let unit := Nat.pow 10 (k + 1)
        (2 * d.coefficient + unit) / (2 * unit)
    if Nat.pow 10 maxDigits ≤ n then none else some n

/-- A decimal rounded to cents. -/
def ofDecimal (d : Decimal) : Except Fault Binary64 :=
  match cents? d with
  | some n => .ok (.ofHundredths d.negative n)
  | none => .error .beyondCents

/-- A double rounded to cents. -/
def ofDouble (x : Binary64) : Except Fault Binary64 :=
  match x.shortest? with
  | some d => ofDecimal d
  | none => .ok (.zero false)

/-- The decimal that a text writes as an amount: blanks around it and low lines
anywhere are dropped, and digits of any script count. -/
def decimal? (s : String) : Option Decimal := do
  let cs ← ((Text.trim s.toList).filter (· != '_')).mapM Numeral.fold?
  let d ← Decimal.read? cs
  if leastExponent ≤ d.exponent ∧ d.pointPlace - 1 ≤ greatestPlace then some d else none

/-- A value rounded to cents. -/
def round : Value → Except Fault Binary64
  | .real x => ofDouble x
  -- An integer that cannot be written is no numeral either, and counts as 0.
  | .int n =>
    if Text.isLong n.natAbs then .ok (.zero false)
    else ofDecimal (.ofInt n)
  | .text s =>
    match decimal? s with
    | some d => ofDecimal d
    | none => .ok (.zero false)
  | _ => .ok (.zero false)

end Money
end Lottery
