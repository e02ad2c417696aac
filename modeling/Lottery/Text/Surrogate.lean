/-
# Halves of surrogate pairs

Code points in `D800` … `DFFF` are no characters: two of them, a first half and
a second half, stand for one character beyond `U+FFFF`.  An escaped text may
hold a half by itself all the same, so what is read of it are code points first:

| step | a pair | a half by itself |
| --- | --- | --- |
| `join` | the code point of its character | stays as it is |
| `chars` | its character | the replacement character `U+FFFD` |

Names that are to be told apart are compared between the two steps, where
different halves are still different.
-/

namespace Lottery
namespace Text

/-- The character that stands for what is none. -/
def replacement : Char := '\ufffd'

namespace Surrogate

/-- Is it the first half of a pair? -/
def isHigh (n : Nat) : Bool := 0xD800 ≤ n && n < 0xDC00

/-- Is it the second half of a pair? -/
def isLow (n : Nat) : Bool := 0xDC00 ≤ n && n < 0xE000

/-- Is it half of a pair? -/
def isHalf (n : Nat) : Bool := isHigh n || isLow n

/-- The code point that two halves stand for. -/
def pair (high low : Nat) : Nat :=
  0x10000 + (high - 0xD800) * 0x400 + (low - 0xDC00)

/-- Code points with one for each pair of halves. -/
def join : List Nat → List Nat
  | [] => []
  | [n] => [n]
  -- A first half that no second half follows stays, and what follows may begin a pair.
  | m :: n :: ns => if isHigh m && isLow n then pair m n :: join ns else m :: join (n :: ns)

/-- The character of a code point. -/
def char (n : Nat) : Char :=
  if isHalf n then replacement else Char.ofNat n

/-- The text of some code points. -/
def text (ns : List Nat) : String :=
  String.ofList (ns.map char)

example : join [0xD83D, 0xDE00, 0xD83D, 0x41] = [0x1F600, 0xD83D, 0x41] ∧
    text [0x1F600, 0xD83D, 0x41] = String.ofList ['😀', replacement, 'A'] := by decide

end Surrogate
end Text
end Lottery
