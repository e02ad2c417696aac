/-
# Play types

| play type | a number of it has | wins with |
| --- | ---: | --- |
| `fijo` | 2 digits | the first group of the draw |
| `corrido` | 2 digits | the second or the third group |
| `centena` | 3 digits | the leading digit and the first group |
| `parle` | 4 digits | two groups, in either order |
| `tripleta` | 6 digits | the three groups, in any order |

`all` is `PLAY_TYPES` in its order, and `digits` is `NUMBER_LENGTHS`.
-/

namespace Lottery

/-- The five kinds of bet on a draw. -/
inductive PlayType where
  | fijo
  | corrido
  | centena
  | parle
  | tripleta
  deriving DecidableEq

namespace PlayType

/-- All play types, in the order in which they are listed. -/
def all : List PlayType :=
  [.fijo, .corrido, .centena, .parle, .tripleta]

/-- The word for a play type. -/
def name : PlayType → String
  | .fijo => "fijo"
  | .corrido => "corrido"
  | .centena => "centena"
  | .parle => "parle"
  | .tripleta => "tripleta"

/-- The play type of a word; case and blanks matter. -/
def ofName? (s : String) : Option PlayType :=
  all.find? fun t => t.name == s

/-- How many digits a number of this type has. -/
def digits : PlayType → Nat
  | .fijo => 2
  | .corrido => 2
  | .centena => 3
  | .parle => 4
  | .tripleta => 6

/-- The numbers of all play types have digits. -/
theorem digits_pos (t : PlayType) : 0 < t.digits := by
  cases t <;> decide

/-- The list of play types is complete. -/
theorem mem_all (t : PlayType) : t ∈ all := by
  cases t <;> decide

/-- A play type is found by its word, -/
theorem ofName?_name (t : PlayType) : ofName? t.name = some t := by
  cases t <;> decide

/-- and no other word finds it. -/
theorem name_of_ofName? {s : String} {t : PlayType} (h : ofName? s = some t) : t.name = s := by
  have := List.find?_some h
  simpa using this

/-- Words and play types determine each other. -/
theorem ofName?_eq_some_iff {s : String} {t : PlayType} : ofName? s = some t ↔ t.name = s :=
  ⟨name_of_ofName?, fun h => h ▸ ofName?_name t⟩

end PlayType
end Lottery
