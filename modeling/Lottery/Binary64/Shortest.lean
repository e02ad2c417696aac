/-
# Decimals and doubles

`ofDecimal` takes a decimal to the nearest double.  `shortest` goes back: of
the decimals that round to a given double it is one with the fewest digits,
and of those the nearest.  It tries 1, 2, … 17 digits; on each grid the two
neighbours of the double are the only candidates.

`Layout` says how the digits of a number are set out as text.
-/

import Lottery.Binary64.Basic
import Lottery.Decimal

namespace Lottery
namespace Binary64

/-- The double nearest to a decimal.  Below `10 ^ -400` that is zero and from
`10 ^ 400` on an infinity, whatever the digits. -/
def ofDecimal (d : Decimal) : Binary64 :=
  if d.coefficient = 0 ∨ d.pointPlace < -400 then zero d.negative
  else if 400 < d.pointPlace then .infinite d.negative
  else match d.exponent with
    | .ofNat k => round d.negative ((d.coefficient * Nat.pow 10 k) <<< 1074) 1
    | .negSucc k => round d.negative (d.coefficient <<< 1074) (Nat.pow 10 (k + 1))

/-- The exponent `k` with `10 ^ k ≤ units × 2 ^ -1074 < 10 ^ (k + 1)`. -/
def leadingPlace (units : Nat) : Int :=
  let whole := units >>> 1074
  if whole = 0 then -(Text.digitCount (((1 <<< 1074) - 1) / units) : Int)
  else (Text.digitCount whole : Int) - 1

/-- The coefficients next to a number of units on the grid `10 ^ place`, the
nearer first, of two equally near the even one first. -/
def neighbours (units : Nat) (place : Int) : List Nat :=
  let (a, d) := match place with
    | .ofNat k => (units, Nat.pow 10 k <<< 1074)
    | .negSucc k => (units * Nat.pow 10 (k + 1), 1 <<< 1074)
  let c := halfEven a d
  if c = a / d then [c, c + 1] else [c, c - 1]

/-- The decimal with the given number of digits that rounds to `x`, if one
does; `units` are those of `x`. -/
def withDigits? (x : Binary64) (negative : Bool) (units digits : Nat) : Option Decimal :=
  let place := leadingPlace units - (digits : Int) + 1
  ((neighbours units place).map fun c => (⟨negative, c, place⟩ : Decimal)).find? fun d =>
    decide (ofDecimal d = x)

/-- The decimal with the fewest digits that rounds to a finite double. -/
def shortest? : Binary64 → Option Decimal
  | .finite negative units h =>
    if units = 0 then some ⟨negative, 0, 0⟩
    else
      -- Never needed, as seventeen digits always suffice; it makes the search total.
      let exact : Decimal := ⟨negative, units * Nat.pow 5 1074, -1074⟩
      some (((List.range' 1 17).findSome?
        (withDigits? (.finite negative units h) negative units)).getD exact)
  | _ => none

/-- How numbers are set out: between which exponents of the leading digit the
point is put in its place, and else the mark before the exponent and the least
number of the exponent's digits. -/
structure Layout where
  lowest : Int
  highest : Int
  mark : Char
  exponentDigits : Nat

namespace Layout

/-- Numbers from `0.0001` to below `10 ^ 16` have their point in its place and
at least one digit after it; others are written like `1.5e+16` and `1e-07`. -/
def standard : Layout := ⟨-4, 15, 'e', 2⟩

/-- Digits with the point after the first `place` of them, zeros filled in on
either side. -/
def positional (ds : List Char) : Int → List Char
  | .ofNat 0 => '0' :: '.' :: ds
  | .ofNat (k + 1) =>
    let fraction := ds.drop (k + 1)
    ds.take (k + 1) ++ List.replicate (k + 1 - ds.length) '0' ++
      '.' :: (if fraction.isEmpty then ['0'] else fraction)
  | .negSucc k => '0' :: '.' :: (List.replicate (k + 1) '0' ++ ds)

/-- An exponent with its sign and its least number of digits. -/
def exponentText (l : Layout) (e : Int) : List Char :=
  let ds := Text.ofNat e.natAbs
  (if e < 0 then '-' else '+') :: (List.replicate (l.exponentDigits - ds.length) '0' ++ ds)

/-- Digits with a point after the first, then the exponent. -/
def scientific (l : Layout) (ds : List Char) (e : Int) : List Char :=
  ds.take 1 ++ (if ds.length ≤ 1 then [] else '.' :: ds.drop 1) ++ l.mark :: l.exponentText e

/-- The text of a decimal; zeros at the end of its digits are dropped. -/
def write (l : Layout) (d : Decimal) : List Char :=
  -- Zeros at the end are left to the place of the point.
  let ds := ((Text.ofNat d.coefficient).reverse.dropWhile (· == '0')).reverse
  let body :=
    if ds.isEmpty then positional ['0'] 1
    else
      let e := d.pointPlace - 1
      if l.lowest ≤ e ∧ e ≤ l.highest then positional ds d.pointPlace else l.scientific ds e
  if d.negative then '-' :: body else body

end Layout

/-- A double as text: its shortest decimal. -/
def written (x : Binary64) : String :=
  match x with
  | .nan => "nan"
  | .infinite false => "inf"
  | .infinite true => "-inf"
  | .finite .. => String.ofList ((x.shortest?.map Layout.standard.write).getD [])

end Binary64
end Lottery
