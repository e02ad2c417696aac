/-
# Bytes as text

UTF-8 writes a character in one byte to four:

| first byte | bytes | next byte |
| --- | ---: | --- |
| `00` … `7F` | 1 | |
| `C2` … `DF` | 2 | `80` … `BF` |
| `E0`, `ED` | 3 | `A0` … `BF`, `80` … `9F` |
| `E1` … `EF` but for `ED` | 3 | `80` … `BF` |
| `F0`, `F4` | 4 | `90` … `BF`, `80` … `8F` |
| `F1` … `F3` | 4 | `80` … `BF` |

All bytes after the second are `80` … `BF`.  So no character is written in two
ways, and halves of surrogate pairs are not written at all.  `utf8From` reads any
bytes: each longest start of a character that does not go on as one is read as
nothing; `utf8?` refuses bytes that have any such.
-/

namespace Lottery
namespace Text

/-- A character under way: how many bytes it still needs, its bits so far, and
between which bounds its next byte has to be. -/
structure Partial where
  needs : Nat
  bits : Nat
  low : Nat
  high : Nat

/-- What the first byte of a character begins. -/
def Partial.ofLead? (b : Nat) : Option Partial :=
  if 0xC2 ≤ b && b ≤ 0xDF then some ⟨1, b - 0xC0, 0x80, 0xBF⟩
  else if b == 0xE0 then some ⟨2, 0, 0xA0, 0xBF⟩
  else if b == 0xED then some ⟨2, 13, 0x80, 0x9F⟩
  else if 0xE1 ≤ b && b ≤ 0xEF then some ⟨2, b - 0xE0, 0x80, 0xBF⟩
  else if b == 0xF0 then some ⟨3, 0, 0x90, 0xBF⟩
  else if 0xF1 ≤ b && b ≤ 0xF3 then some ⟨3, b - 0xF0, 0x80, 0xBF⟩
  else if b == 0xF4 then some ⟨3, 4, 0x80, 0x8F⟩
  else none

/-- The characters of some bytes, after what is under way; what is none stands
for each longest start of a character that does not go on as one. -/
def utf8From : Option Partial → List Nat → List (Option Char)
  | none, [] => []
  | some _, [] => [none]
  | state, b :: bs =>
    -- Whether the next byte goes on with the character that was begun.
    let fits : Bool := match state with
      | some p => p.low ≤ b && b ≤ p.high
      | none => false
    match state, fits with
    | some p, true =>
      let bits := p.bits * 64 + (b - 0x80)
      if p.needs ≤ 1 then some (Char.ofNat bits) :: utf8From none bs
      else utf8From (some ⟨p.needs - 1, bits, 0x80, 0xBF⟩) bs
    | state, _ =>
      -- A character that is broken off is lost, and the byte is looked at as a beginning.
      let broken := if state.isSome then [none] else []
      if b < 0x80 then broken ++ some (Char.ofNat b) :: utf8From none bs
      else match Partial.ofLead? b with
        | some p => broken ++ utf8From (some p) bs
        | none => broken ++ none :: utf8From none bs

/-- The characters of valid UTF-8. -/
def utf8? (bytes : List Nat) : Option (List Char) :=
  (utf8From none bytes).mapM id

/-- The bytes of an array as numbers. -/
def byteList (bytes : ByteArray) : List Nat :=
  bytes.data.toList.map UInt8.toNat

end Text
end Lottery
