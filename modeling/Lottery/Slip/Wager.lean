/-
# Wagers and the errors of a line

A line of a slip asks for one or more wagers.  A wager puts the same stake on
each of its numbers:

| mode | numbers | stake on each | total |
| --- | --- | --- | --- |
| none | as listed | as written | stake × numbers |
| `direct` | four-digit numbers as listed | as written | stake × numbers |
| `pairs` | all pairs of the listed groups | as written | stake × numbers |
| `pairs`, locked slip | all pairs of the listed groups | written ÷ numbers | as written |
| `lockedPairs` | all pairs of the listed groups | written ÷ numbers | as written |

A line that breaks a rule asks for nothing; `LineError` has one cause for each
rule, `LineError.message` its wording.

`Wager.staking` and `Wager.sharing` are the two ways in which `_instruction` is called,
`LineError` is `BetSyntaxError`, and `writtenTotal?` is what an instruction keeps as its
`original_total`.
-/

import Lottery.PlayType

namespace Lottery

/-- How the numbers of a parle were given. -/
inductive Mode where
  | direct
  | pairs
  | lockedPairs
  deriving DecidableEq

namespace Mode

/-- The word for a mode. -/
def name : Mode → String
  | .direct => "direct"
  | .pairs => "pairs"
  | .lockedPairs => "pairs-locked"

end Mode

/-- Numbers of one play type with one stake on each. -/
structure Wager where
  playType : PlayType
  numbers : List String
  each : Nat
  total : Nat
  mode : Option Mode
  deriving DecidableEq

namespace Wager

/-- The wager that stakes `each` on every number. -/
def staking (t : PlayType) (numbers : List String) (each : Nat) (mode : Option Mode) : Wager :=
  ⟨t, numbers, each, each * numbers.length, mode⟩

/-- The wager that shares `total` among its numbers; what does not divide is
charged and not staked. -/
def sharing (t : PlayType) (numbers : List String) (total : Nat) (mode : Option Mode) : Wager :=
  ⟨t, numbers, total / numbers.length, total, mode⟩

/-- The total that a locked wager was written with. -/
def writtenTotal? (w : Wager) : Option Nat :=
  if w.mode = some .lockedPairs then some w.total else none

end Wager

/-- Why a line is rejected. -/
inductive LineError where
  /-- A number with more digits than an amount may have. -/
  | amountTooLong
  /-- A line with `*` and without an amount. -/
  | missingPairAmount
  /-- Fewer than two groups of two digits to pair. -/
  | tooFewGroups
  /-- An amount smaller than the number of pairs it is shared among. -/
  | shareTooSmall
  /-- The same, for an amount marked as locked. -/
  | lockedShareTooSmall
  /-- No dash between numbers and amount. -/
  | missingDash
  /-- No word between numbers and amounts. -/
  | missingCon
  /-- Nothing to bet on. -/
  | noNumbers
  /-- Nothing to bet on that has a digit. -/
  | noValidNumbers
  /-- Nothing after the word that introduces the amounts. -/
  | noAmounts
  /-- A token that is no amount. -/
  | invalidToken (token : String)
  /-- Numbers of different widths on one line. -/
  | mixedWidths
  /-- A width that no play type has. -/
  | unsupportedWidth
  /-- Both amounts of two-digit numbers are zero. -/
  | bothZero
  /-- No amount names a play type. -/
  | missingPlayType
  /-- The only amount of a play type is zero. -/
  | zeroAmount (t : PlayType)
  /-- The plain amount that a play type needs is missing or zero. -/
  | plainAmountRequired (t : PlayType)
  deriving DecidableEq

namespace LineError

/-- The wording of an error. -/
def message : LineError → String
  | .amountTooLong => "Monto inválido"
  | .missingPairAmount => "Falta monto parle"
  | .tooFewGroups => "Parle requiere >=2 números de 2 dígitos"
  | .shareTooSmall => "Monto insuficiente para repartir entre parle"
  | .lockedShareTooSmall => "Monto parle candado insuficiente"
  | .missingDash => "Falta monto (guion)"
  | .missingCon => "Falta palabra \"con\""
  | .noNumbers => "Sin números"
  | .noValidNumbers => "Sin números válidos"
  | .noAmounts => "Sin montos"
  | .invalidToken token => "Token inválido: " ++ token
  | .mixedWidths => "Longitudes mezcladas"
  | .unsupportedWidth => "Longitud no soportada"
  | .bothZero => "Ambos montos 0 (fijo/corrido)"
  | .missingPlayType => "Falta tipo de jugada (f/c/p/can)"
  | .zeroAmount t => "Monto " ++ t.name ++ " debe ser >0"
  | .plainAmountRequired .centena => "Centena requiere monto simple"
  | .plainAmountRequired .parle => "Parle directo requiere monto"
  | .plainAmountRequired .tripleta => "Tripleta requiere monto simple"
  | .plainAmountRequired t => t.name ++ " requiere monto simple"

end LineError
end Lottery
