/-
# Price tables

A price table gives each play type two multipliers, one for limited numbers
and one for all others.  `Table.build` validates a value: it has to be an
object whose names are play types and whose entries are objects with both
multipliers; a multiplier is a finite double that is not negative, and true
and false are none.  Of several faults the first entry's counts, and in it the
limited multiplier's before the regular one's.

| definition | function |
| --- | --- |
| `multiplier` | `_multiplier` |
| `Table.build` | `build_price_table` |
| `Table.reference` | `reference_price_table`, of `REFERENCE_PRICES` |
| `Rate.zero` | `ZERO_RATE`, for a play type without an entry |
-/

import Lottery.Entries
import Lottery.PlayType
import Lottery.Value.Written

namespace Lottery
namespace Price

/-- The two multipliers of a play type. -/
structure Rate where
  limited : Value
  regular : Value

/-- The multipliers of play types, by their words. -/
abbrev Table := Entries String Rate

/-- No prize. -/
def Rate.zero : Rate := ⟨.int 0, .int 0⟩

/-- The multiplier of one side of an entry. -/
def multiplier (playType : String) (entry : List (String × Value)) (side : String) :
    Except Fault Binary64 :=
  match entry.lookup side with
  | none => .error (.prices (.missingRate side playType))
  | some v =>
    let refused : Except Fault Binary64 := do
      -- The message quotes the value, which a long integer does not allow.
      let shown ← v.shown
      .error (.prices (.invalidRate side playType shown))
    match v with
    -- A truth value would be a number otherwise.
    | .bool _ => refused
    | v =>
      match v.toDouble with
      | .ok x => if x.isFinite && !x.lt (.zero false) then .ok x else refused
      | .error .beyondDoubles => .error .beyondDoubles
      | .error _ => refused

/-- A validated entry. -/
def entry (playType : String) (v : Value) : Except Fault (String × Rate) :=
  if (PlayType.ofName? playType).isNone then .error (.prices (.unknownPlayType playType))
  else match v with
    | .object fields => do
      -- The first of two faults counts, and that is the limited multiplier's.
      let limited ← multiplier playType fields "limited"
      let regular ← multiplier playType fields "regular"
      .ok (playType, ⟨.real limited, .real regular⟩)
    | _ => .error (.prices (.ratesNotAnObject playType))

namespace Table

/-- The table that a value validates to. -/
def build : Value → Except Fault Table
  | .object fields => fields.mapM fun f => entry f.1 f.2
  | _ => .error (.prices .notATable)

/-- A table as a value. -/
def toValue (t : Table) : Value :=
  .object (t.map fun e => (e.1, .object [("limited", e.2.limited), ("regular", e.2.regular)]))

/-- The entries of an object as they are, not validated. -/
def ofFields (fields : List (String × Value)) : Table :=
  fields.map fun f =>
    match f.2 with
    | .object rates => (f.1, ⟨Value.get rates "limited", Value.get rates "regular"⟩)
    | _ => (f.1, .zero)

/-- The multipliers of a play type, zero if the table has none. -/
def rate (t : Table) (playType : String) : Rate :=
  (t.lookup playType).getD .zero

/-- The multipliers in use where no others are given. -/
def reference : Table :=
  let whole (playType : PlayType) (limited regular : Int) : String × Rate :=
    (playType.name, ⟨.real (.ofInt limited), .real (.ofInt regular)⟩)
  [whole .fijo 50 80, whole .corrido 50 80, whole .centena 500 800, whole .parle 900 1200,
    whole .tripleta 10000 15000]

end Table
end Price
end Lottery
