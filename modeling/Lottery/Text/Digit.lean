/-
# Decimal digits

The decimal digits of Unicode 14 come in runs of ten consecutive code points,
one run per script; `zeros` lists the first of each run.  A digit counts as
its distance from the zero of its run, so every script writes the same
numbers.
-/

namespace Lottery
namespace Text

/-- The code points of the digit zero, one per script. -/
def zeros : List Nat :=
  [0x30, 0x660, 0x6F0, 0x7C0, 0x966, 0x9E6, 0xA66, 0xAE6, 0xB66, 0xBE6, 0xC66, 0xCE6, 0xD66,
    0xDE6, 0xE50, 0xED0, 0xF20, 0x1040, 0x1090, 0x17E0, 0x1810, 0x1946, 0x19D0, 0x1A80, 0x1A90,
    0x1B50, 0x1BB0, 0x1C40, 0x1C50, 0xA620, 0xA8D0, 0xA900, 0xA9D0, 0xA9F0, 0xAA50, 0xABF0,
    0xFF10, 0x104A0, 0x10D30, 0x11066, 0x110F0, 0x11136, 0x111D0, 0x112F0, 0x11450, 0x114D0,
    0x11650, 0x116C0, 0x11730, 0x118E0, 0x11950, 0x11C50, 0x11D50, 0x11DA0, 0x16A60, 0x16AC0,
    0x16B50, 0x1D7CE, 0x1D7D8, 0x1D7E2, 0x1D7EC, 0x1D7F6, 0x1E140, 0x1E2F0, 0x1E950, 0x1FBF0]

/-- The value of a decimal digit of any script. -/
def digitValue? (c : Char) : Option Nat :=
  (zeros.find? fun z => z ≤ c.toNat && c.toNat < z + 10).map fun z => c.toNat - z

/-- The value of a hexadecimal digit in ASCII, of either case. -/
def hexValue? (c : Char) : Option Nat :=
  if c.isDigit then some (c.toNat - 48)
  else if 'a' ≤ c && c ≤ 'f' then some (c.toNat - 87)
  else if 'A' ≤ c && c ≤ 'F' then some (c.toNat - 55)
  else none

/-- The ASCII digits of a text, in order. -/
def digitsOf (cs : List Char) : List Char :=
  cs.filter Char.isDigit

/-- The number that a list of ASCII digits writes; no digit writes zero. -/
def toNat (cs : List Char) : Nat :=
  cs.foldl (fun n c => n * 10 + (c.toNat - 48)) 0

/-- The ASCII digits of a number, without leading zeros; zero has one. -/
def ofNat (n : Nat) : List Char :=
  Nat.toDigits 10 n

/-- A number that is read from digits or written as text has at most this many of
them; leading zeros count. -/
def maxDigits : Nat := 4300

/-- How many digits a number has; zero has one. -/
def digitCount (n : Nat) : Nat :=
  (ofNat n).length

/-- Has a number too many digits to be written or read? -/
def isLong (n : Nat) : Bool :=
  maxDigits < digitCount n

/-- Keeping digits leaves nothing else. -/
theorem isDigit_of_mem_digitsOf {c : Char} {cs : List Char} (h : c ∈ digitsOf cs) :
    c.isDigit = true :=
  (List.mem_filter.1 h).2

example : digitValue? '7' = some 7 ∧ digitValue? '٣' = some 3 ∧ digitValue? '²' = none := by decide
example : toNat "0042".toList = 42 ∧ toNat [] = 0 := by decide

end Text
end Lottery
