/-
# Price tables in files

A price file holds a price table as JSON text in UTF-8.  A variable may name
the file to use; where it names none, and where the file it names gives no
table, the reference multipliers are in use, in the second case with a
warning.  A file that stands too deep inside itself, or holds an integer beyond
the doubles as a multiplier, is a fault.  How deep is too deep depends on how
much of the stack is taken where the file is read, so the surroundings say it.

`Table.load` is `load_price_table`, and `Table.inUse` is `price_table_from_env` with the
variable `PRICE_TABLE_ENV` and the file that it names handed over.
-/

import Lottery.Json
import Lottery.Price.Table
import Lottery.Text.Blank
import Lottery.Text.Encoding

namespace Lottery
namespace Price

/-- What is known of the place where the service runs: the variable that names
the price file, if it is set, the bytes of the files there are, and how deep a
file may stand inside itself. -/
structure Surroundings where
  priceVariable : Option String
  fileBytes : String → Option ByteArray
  depth : Nat

namespace Table

/-- The table of a file, given its path and its bytes, none if it is missing. -/
def load (depth : Nat) (path : String) (bytes : Option ByteArray) : Except Fault Table :=
  match bytes.bind fun b => Text.utf8? (Text.byteList b) with
  | none => .error (.prices (.unreadable path))
  | some cs =>
    match Json.read (.ofDepth depth) cs with
    | .ok v => build v
    -- A text that is no JSON is a file that cannot be read, one that is too deep a fault.
    | .error .malformed => .error (.prices (.unreadable path))
    | .error .tooDeep => .error .tooDeep

/-- The table in use, and the warnings of taking it into use. -/
def inUse (s : Surroundings) : Except Fault (Table × List String) :=
  let path := String.ofList (Text.trim (s.priceVariable.getD "").toList)
  if path.isEmpty then .ok (reference, [])
  else match load s.depth path (s.fileBytes path) with
    | .ok t => .ok (t, [])
    | .error (.prices e) => .ok (reference, ["Falling back to reference prices: " ++ e.message])
    | .error f => .error f

end Table
end Price
end Lottery
