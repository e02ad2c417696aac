/-
# Quoted texts

A text inside a message stands between quotes: single ones, or double ones if
it holds a single quote and no double one.

| character | written |
| --- | --- |
| backslash, the quote in use | with a backslash in front |
| tab, line feed, return | `\t`, `\n`, `\r` |
| not printable, below `U+0100` | `\x` and 2 hexadecimal digits |
| not printable, below `U+10000` | `\u` and 4 hexadecimal digits |
| not printable, any other | `\U` and 8 hexadecimal digits |
| any other | as it is |
-/

import Lottery.Text.Printable

namespace Lottery
namespace Text

/-- The single quote. -/
def singleQuote : Char := '\x27'

/-- The double quote. -/
def doubleQuote : Char := '\x22'

/-- The quote that a text is put between. -/
def quoteFor (cs : List Char) : Char :=
  if cs.contains singleQuote && !cs.contains doubleQuote then doubleQuote else singleQuote

/-- A number in hexadecimal, with zeros in front up to a width. -/
def hex (width n : Nat) : List Char :=
  let ds := Nat.toDigits 16 n
  List.replicate (width - ds.length) '0' ++ ds

/-- A character between the quotes `q`. -/
def escape (q c : Char) : List Char :=
  if c == '\\' || c == q then ['\\', c]
  else if c == '\t' then ['\\', 't']
  else if c == '\n' then ['\\', 'n']
  else if c == '\r' then ['\\', 'r']
  else if isPrintable c then [c]
  else if c.toNat < 256 then '\\' :: 'x' :: hex 2 c.toNat
  else if c.toNat < 65536 then '\\' :: 'u' :: hex 4 c.toNat
  else '\\' :: 'U' :: hex 8 c.toNat

/-- A text between its quotes. -/
def quoted (s : String) : String :=
  let q := quoteFor s.toList
  String.ofList (q :: (s.toList.flatMap (escape q) ++ [q]))

end Text
end Lottery
