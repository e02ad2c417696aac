/-
# Values

The values that a bet, a play or a request is made of: those of JSON, with
integers and doubles told apart.  The fields of an object keep the order in
which their names first came.
-/

import Lottery.Binary64.Basic
import Lottery.Fault

namespace Lottery

/-- A value. -/
inductive Value where
  | null
  | bool (b : Bool)
  | int (n : Int)
  | real (x : Binary64)
  | text (s : String)
  | list (xs : List Value)
  | object (fields : List (String × Value))

namespace Value

/-- The kind of a value. -/
def kind : Value → Kind
  | .null => .null
  | .bool _ => .bool
  | .int _ => .int
  | .real _ => .real
  | .text _ => .text
  | .list _ => .list
  | .object _ => .object

/-- Does a value count as present?  Null, false, both zeros and whatever is
empty do not. -/
def isPresent : Value → Bool
  | .null => false
  | .bool b => b
  | .int n => decide (n ≠ 0)
  | .real x => !x.isZero
  | .text s => !s.isEmpty
  | .list xs => !xs.isEmpty
  | .object fs => !fs.isEmpty

/-- A value if it counts as present, else another. -/
def orElse (v other : Value) : Value :=
  if v.isPresent then v else other

/-- The text that a value is, if it is one. -/
def text? : Value → Option String
  | .text s => some s
  | _ => none

/-- Is it null? -/
def isNull : Value → Bool
  | .null => true
  | _ => false

/-- The elements that a value is gone through by: those of a list, the
characters of a text, the names of an object. -/
def elements : Value → Except Fault (List Value)
  | .list vs => .ok vs
  | .text s => .ok (s.toList.map fun c => .text (String.singleton c))
  | .object fields => .ok (fields.map fun f => .text f.1)
  | v => .error (.notIterable v.kind)

/-- The value of a name among fields, null if there is none. -/
def get (fields : List (String × Value)) (name : String) : Value :=
  (fields.lookup name).getD .null

end Value
end Lottery
