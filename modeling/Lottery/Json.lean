/-
# Reading JSON text

`Json.read` reads one value with JSON blanks around it.  A number with a
point or an exponent is a double, any other an integer; the words `NaN`,
`Infinity` and `-Infinity` are doubles too.  A name that comes twice in an
object keeps its first place and its last value.  Two escaped halves of a
surrogate pair are one character; a half by itself is read as `U+FFFD`, but
names that differ in such halves remain different names.

A reader has bounds: the most digits of an integer, and how deep lists and
objects may stand inside one another.  How deep that may be is a matter of the
place where a text is read, so it is given.  A text that goes too deep fails at
the bracket that does so, whatever follows; any other failure means that the
text is no JSON.

The length of the text bounds the steps of reading and is the fuel of the
recursion.
-/

import Lottery.Binary64.Shortest
import Lottery.Entries
import Lottery.Text.Surrogate
import Lottery.Value.Basic

namespace Lottery
namespace Json

/-- The bounds of a reader: the most digits of an integer, if there is such a
bound, and the greatest depth. -/
structure Bounds where
  digits : Option Nat
  depth : Nat
  deriving DecidableEq

/-- The bounds of a reader that refuses integers of too many digits. -/
def Bounds.ofDepth (depth : Nat) : Bounds := ⟨some Text.maxDigits, depth⟩

/-- Why a text gives no value. -/
inductive Failure where
  | malformed
  | tooDeep
  deriving DecidableEq

/-- What was read, or the failure that the text is no JSON. -/
def orMalformed {α : Type} : Option α → Except Failure α
  | some x => .ok x
  | none => .error .malformed

/-- The blanks between tokens. -/
def isGap (c : Char) : Bool :=
  c == ' ' || c == '\t' || c == '\n' || c == '\r'

/-- The text from its first token on. -/
def skip (cs : List Char) : List Char :=
  cs.dropWhile isGap

/-! ### Texts -/

/-- The number that four hexadecimal digits write. -/
def hex4? (a b c d : Char) : Option Nat := do
  let a ← Text.hexValue? a
  let b ← Text.hexValue? b
  let c ← Text.hexValue? c
  let d ← Text.hexValue? d
  some (((a * 16 + b) * 16 + c) * 16 + d)

/-- The character that a letter after a backslash stands for. -/
def escaped? (c : Char) : Option Char :=
  if c == '"' || c == '\\' || c == '/' then some c
  else if c == 'b' then some '\x08'
  else if c == 'f' then some '\x0c'
  else if c == 'n' then some '\n'
  else if c == 'r' then some '\r'
  else if c == 't' then some '\t'
  else none

/-- The code points of a text up to its closing quote, halves of surrogate pairs
still apart, and what follows the quote. -/
def codes? : List Char → Option (List Nat × List Char)
  | [] => none
  | '"' :: rest => some ([], rest)
  -- An escaped code point may be half of a pair, so code points come out and no characters.
  | '\\' :: 'u' :: a :: b :: c :: d :: rest => do
    let n ← hex4? a b c d
    let (ns, rest) ← codes? rest
    some (n :: ns, rest)
  | '\\' :: e :: rest => do
    let c ← escaped? e
    let (ns, rest) ← codes? rest
    some (c.toNat :: ns, rest)
  | c :: rest =>
    if c.toNat < 32 then none
    else do
      let (ns, rest) ← codes? rest
      some (c.toNat :: ns, rest)

/-- The code points of the text that follows an opening quote, with one for each
pair of halves, and what follows the text. -/
def points? (cs : List Char) : Option (List Nat × List Char) :=
  (codes? cs).map fun r => (Text.Surrogate.join r.1, r.2)

/-- Is every text that is quoted from here on made of characters?  None of them has
half of a surrogate pair by itself. -/
def wholeFrom : (fuel : Nat) → List Char → Bool
  | 0, _ | _ + 1, [] => true
  | fuel + 1, c :: cs =>
    if c == '"' then
      -- Texts are looked at one by one; what is between them holds no escapes.
      match points? cs with
      | some (ns, rest) => !ns.any Text.Surrogate.isHalf && wholeFrom fuel rest
      | none => true
    else wholeFrom fuel cs

/-- Is every text in a JSON text made of characters? -/
def isWhole (cs : List Char) : Bool :=
  wholeFrom cs.length cs

/-- The fields of an object by their names as texts. -/
def named (fields : List (List Nat × Value)) : List (String × Value) :=
  fields.map fun f => (Text.Surrogate.text f.1, f.2)

/-! ### Numbers -/

/-- The digits at the start of a number: one zero, or digits that begin with
another one. -/
def wholePart (cs : List Char) : List Char :=
  match cs with
  | '0' :: _ => ['0']
  | cs => cs.takeWhile Char.isDigit

/-- A point and digits, if they come next. -/
def fractionPart : List Char → List Char
  | '.' :: cs =>
    let ds := cs.takeWhile Char.isDigit
    if ds.isEmpty then [] else '.' :: ds
  | _ => []

/-- An exponent, if one comes next. -/
def exponentPart : List Char → List Char
  | e :: cs =>
    if e == 'e' || e == 'E' then
      let sign := cs.take 1 |>.filter fun c => c == '+' || c == '-'
      let ds := (cs.drop sign.length).takeWhile Char.isDigit
      if ds.isEmpty then [] else e :: (sign ++ ds)
    else []
  | [] => []

/-- The number at the start of a text, and what follows it.  With a limit, an
integer of more digits is refused. -/
def number? (limit : Option Nat) (cs : List Char) : Option (Value × List Char) :=
  let sign := cs.take 1 |>.filter (· == '-')
  let cs := cs.drop sign.length
  let whole := wholePart cs
  let cs := cs.drop whole.length
  let fraction := fractionPart cs
  let cs := cs.drop fraction.length
  let exponent := exponentPart cs
  let rest := cs.drop exponent.length
  if whole.isEmpty then none
  else if fraction.isEmpty && exponent.isEmpty then
    -- Only an integer has a limit of digits: what has a point or an exponent is rounded to a
    -- double.
    if limit.any fun l => l < whole.length then none
    else
      let n : Int := Text.toNat whole
      some (.int (if sign.isEmpty then n else -n), rest)
  else (Decimal.read? (sign ++ whole ++ fraction ++ exponent)).map fun d =>
    (.real (.ofDecimal d), rest)

/-! ### Values -/

mutual

/-- The value at the start of a text, and what follows it; `room` is the depth
that is left. -/
def value (digits : Option Nat) : (fuel room : Nat) → List Char → Except Failure (Value × List Char)
  | 0, _, _ => .error .malformed
  | fuel + 1, room, cs =>
    match cs with
    | '"' :: rest =>
      (orMalformed (points? rest)).map fun r => (.text (Text.Surrogate.text r.1), r.2)
    | '[' :: rest =>
      -- The depth is used up by the bracket, before anything behind it is read.
      match room, skip rest with
      | 0, _ => .error .tooDeep
      | _ + 1, ']' :: rest => .ok (.list [], rest)
      | room + 1, rest => (elements digits fuel room rest).map fun r => (.list r.1, r.2)
    | '{' :: rest =>
      match room, skip rest with
      | 0, _ => .error .tooDeep
      | _ + 1, '}' :: rest => .ok (.object [], rest)
      | room + 1, rest => (members digits fuel room [] rest).map fun r => (.object (named r.1), r.2)
    | 'n' :: 'u' :: 'l' :: 'l' :: rest => .ok (.null, rest)
    | 't' :: 'r' :: 'u' :: 'e' :: rest => .ok (.bool true, rest)
    | 'f' :: 'a' :: 'l' :: 's' :: 'e' :: rest => .ok (.bool false, rest)
    | 'N' :: 'a' :: 'N' :: rest => .ok (.real .nan, rest)
    | 'I' :: 'n' :: 'f' :: 'i' :: 'n' :: 'i' :: 't' :: 'y' :: rest =>
      .ok (.real (.infinite false), rest)
    | '-' :: 'I' :: 'n' :: 'f' :: 'i' :: 'n' :: 'i' :: 't' :: 'y' :: rest =>
      .ok (.real (.infinite true), rest)
    | cs => orMalformed (number? digits cs)

/-- The elements of a list that is not empty, and what follows its bracket. -/
def elements (digits : Option Nat) :
    (fuel room : Nat) → List Char → Except Failure (List Value × List Char)
  | 0, _, _ => .error .malformed
  | fuel + 1, room, cs => do
    let (v, rest) ← value digits fuel room cs
    match skip rest with
    | ']' :: rest => .ok ([v], rest)
    | ',' :: rest => do
      let (vs, rest) ← elements digits fuel room (skip rest)
      .ok (v :: vs, rest)
    | _ => .error .malformed

/-- The fields of an object that is not empty, after those already read, and what
follows its brace; names are code points still. -/
def members (digits : Option Nat) :
    (fuel room : Nat) → List (List Nat × Value) → List Char →
      Except Failure (List (List Nat × Value) × List Char)
  | 0, _, _, _ => .error .malformed
  | fuel + 1, room, fields, cs =>
    match cs with
    | '"' :: rest => do
      let (name, rest) ← orMalformed (points? rest)
      match skip rest with
      | ':' :: rest => do
        let (v, rest) ← value digits fuel room (skip rest)
        -- Names are compared as code points, so halves that differ do not merge entries.
        let fields := Entries.put name v fields
        match skip rest with
        | '}' :: rest => .ok (fields, rest)
        | ',' :: rest => members digits fuel room fields (skip rest)
        | _ => .error .malformed
      | _ => .error .malformed
    | _ => .error .malformed

end

/-- The value that a text writes, with nothing but blanks around it. -/
def read (bounds : Bounds) (cs : List Char) : Except Failure Value := do
  let (v, rest) ← value bounds.digits (2 * cs.length + 2) bounds.depth (skip cs)
  if (skip rest).isEmpty then .ok v else .error .malformed

end Json
end Lottery
