/-
# Blank characters and the pieces of a text

A text is handled as the list of its characters.  The 29 blank characters are
the white space of Unicode 14 and the four separators `U+001C` … `U+001F`:

| code points | characters |
| --- | --- |
| `0009` … `000D`, `0020` | tab, line feed, vertical tab, form feed, return, space |
| `001C` … `001F` | file, group, record and unit separator |
| `0085`, `00A0` | next line, no-break space |
| `1680`, `2000` … `200A`, `202F`, `205F`, `3000` | spaces of a given width |
| `2028`, `2029` | line and paragraph separator |

`U+200B` (zero width space) and `U+FEFF` (byte order mark) are not blank.
-/

namespace Lottery
namespace Text

/-- Is `c` one of the 29 blank characters? -/
def isBlank (c : Char) : Bool :=
  let n := c.toNat
  (9 ≤ n && n ≤ 13) || (28 ≤ n && n ≤ 32) || n == 133 || n == 160 || n == 5760 ||
    (8192 ≤ n && n ≤ 8202) || n == 8232 || n == 8233 || n == 8239 || n == 8287 || n == 12288

/-- The text without the characters of the class `p` at its two ends. -/
def strip (p : Char → Bool) (cs : List Char) : List Char :=
  ((cs.dropWhile p).reverse.dropWhile p).reverse

/-- The text without the blanks at its two ends. -/
def trim (cs : List Char) : List Char :=
  strip isBlank cs

/-- `c` put in front of the first of some pieces. -/
def attach (c : Char) : List (List Char) → List (List Char)
  | [] => [[c]]
  | p :: ps => (c :: p) :: ps

/-- The pieces of a text between the characters of the class `sep`, empty ones
included: `k` separators leave `k + 1` pieces. -/
def pieces (sep : Char → Bool) : List Char → List (List Char)
  | [] => [[]]
  | c :: cs => if sep c then [] :: pieces sep cs else attach c (pieces sep cs)

/-- The non-empty pieces of a text between the characters of the class `sep`. -/
def words (sep : Char → Bool) (cs : List Char) : List (List Char) :=
  (pieces sep cs).filter fun p => !p.isEmpty

/-- The lines of a text, trimmed, without those that are blank throughout. -/
def lines (cs : List Char) : List (List Char) :=
  ((pieces (· == '\n') cs).map trim).filter fun p => !p.isEmpty

/-- Even the empty text has a piece. -/
theorem pieces_ne_nil (sep : Char → Bool) (cs : List Char) : pieces sep cs ≠ [] := by
  cases cs with
  | nil => simp [pieces]
  | cons c cs =>
    unfold pieces
    split
    · simp
    · cases pieces sep cs <;> simp [attach]

example : pieces (· == ',') "a,,b".toList = [['a'], [], ['b']] := by decide
example : isBlank '\u200b' = false ∧ isBlank '\ufeff' = false ∧ isBlank '\u3000' = true := by decide

end Text
end Lottery
