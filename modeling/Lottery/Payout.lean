/-
# What a bet pays

A bet wins with each of its numbers that is a winning number of its play type
in the draw, a number of a parle in either spelling.  Each winning number pays
the amount of the bet times a multiplier: the limited one if the number, as
written, is among the limited numbers, else the regular one.  The payments are
added as doubles from the left and rounded to cents once.

| definition | function | gives |
| --- | --- | --- |
| `Bet.multiplier` | `_multiplier` | the limited or the regular multiplier of a number |
| `Bet.prize` | the body of `evaluate_bet` | what a bet with a draw wins |
| `Bet.evaluate` | `evaluate_bet` | the same, and no prize where bet or draw is missing |
| `Prize.none` | `NO_PRIZE` | no win and nothing paid |
-/

import Lottery.Draw
import Lottery.Money
import Lottery.Numbers
import Lottery.Price.Table
import Lottery.Value.Key

namespace Lottery

/-- A bet as it was given. -/
structure Bet where
  playType : Value
  numbers : Value
  amount : Value

/-- Whether a bet wins, and what it pays. -/
structure Prize where
  won : Bool
  pay : Binary64
  deriving DecidableEq

namespace Prize

/-- The outcome of a bet that does not win. -/
def none : Prize := ⟨false, .zero false⟩

end Prize

namespace Draw

/-- The numbers that win for the play type of a bet; an unknown one has none. -/
def winnersOf (d : Draw) : Value → List String
  | .text name =>
    match PlayType.ofName? name with
    | some t => d.winners t
    | none => []
  | _ => []

end Draw

namespace Bet

/-- Is it a bet on parles? -/
def isParle (b : Bet) : Bool :=
  match b.playType with
  | .text name => name == PlayType.parle.name
  | _ => false

/-- Does a number of the bet win in a draw? -/
def wins (b : Bet) (d : Draw) (number : String) : Bool :=
  (d.winnersOf b.playType).contains (if b.isParle then Parle.canonical number else number)

/-- The multipliers of the bet. -/
def rate (b : Bet) (prices : Price.Table) : Except Fault Price.Rate := do
  match ← b.playType.asKey with
  | .text name => .ok (prices.rate name)
  | _ => .ok .zero

/-- The multiplier of a number. -/
def multiplier (rate : Price.Rate) (limited : List String) (number : String) :
    Except Fault Binary64 :=
  (if limited.contains number then rate.limited else rate.regular).weight

/-- The sum of the payments for some winning numbers. -/
def payments (stake : Binary64) (rate : Price.Rate) (limited : List String)
    (winning : List String) : Except Fault Binary64 :=
  winning.foldlM (fun total number => do
    let m ← multiplier rate limited number
    .ok (total.add (stake.mul m))) (.zero false)

/-- The prize of a bet in a draw. -/
def prize (b : Bet) (d : Draw) (limited : List String) (prices : Price.Table) :
    Except Fault Prize := do
  let numbers ← Numbers.ofValue b.numbers
  if numbers.isEmpty then .ok .none
  else do
    -- Without numbers neither the prices nor the stake are looked at.
    let rate ← b.rate prices
    let stake ← b.amount.weight
    let winning := numbers.filter (b.wins d)
    let total ← payments stake rate limited winning
    -- The one rounding, after all payments are added.
    let pay ← Money.ofDouble total
    .ok ⟨!winning.isEmpty, pay⟩

/-- The prize of a bet, none while there is no bet, no draw or no price table. -/
def evaluate (b : Option Bet) (d : Option Draw) (limited : List String)
    (prices : Option Price.Table) : Except Fault Prize :=
  match b, d, prices with
  | some b, some d, some prices => b.prize d limited prices
  | _, _, _ => .ok .none

end Bet
end Lottery
