/-
# Lines with dashes that are put together

| put together from | line | read by |
| --- | --- | --- |
| numbers of two digits, two amounts | `12 34-5-3` | `Dash.line_twoDigits` |
| numbers of three, four or six, one amount | `123 456-5` | `Dash.line_single` |
| groups, one amount | `12*34*56-9` | `Dash.line_pairs` |

Numbers and amounts are numerals of any length; an amount of too many digits is
the error of its line.
-/

import Lottery.Proofs.Slip.Listed
import Lottery.Proofs.Slip.Pairs

namespace Lottery
namespace Slip

namespace Dash

variable {locked : Bool} {ns : List (List Char)} {a b : List Char}

/-- Numbers and amounts with a dash between each two. -/
def written (ns amounts : List (List Char)) : List Char :=
  ['-'].intercalate ([' '].intercalate ns :: amounts)

/-- Groups with a star between each two, and one amount. -/
def writtenPairs (ns : List (List Char)) (a : List Char) : List Char :=
  ['-'].intercalate [['*'].intercalate ns, a]

example : written ["12".toList, "34".toList] ["5".toList, "03".toList] = "12 34-5-03".toList ∧
    writtenPairs ["12".toList, "34".toList] "9".toList = "12*34-9".toList := by
  decide

/-- They are listed on their line, with a single blank between each two numbers and nothing
around the dashes. -/
theorem listed_written {amounts : List (List Char)} {w : Nat} (hns : OfWidth w ns) (hw : 0 < w)
    (ha : ∀ a ∈ amounts, IsNumeral a) :
    Listed ns ([' '].intercalate ns) amounts (written ns amounts) where
  isNumeral := hns.isNumeral hw
  gaps := Text.joined_intercalate ⟨by decide, by decide⟩ hns.ne_nil
  isNumeral_amounts := ha
  dashes := Text.joined_intercalate ⟨⟨[], [], by decide, by decide, rfl⟩, by decide⟩
    (List.cons_ne_nil _ _)

/-- **Numbers of two digits at two amounts** are read as such. -/
theorem line_twoDigits (hns : OfWidth 2 ns) (ha : IsNumeral a) (hb : IsNumeral b) :
    line locked (written ns [a, b]) = (do
      let first ← amount a
      let second ← amount b
      twoDigits (ns.map String.ofList) first second) := by
  have hab : ∀ p ∈ [a, b], IsNumeral p := by
    rintro p (_ | ⟨_, _ | ⟨_, h⟩⟩)
    · exact ha
    · exact hb
    · cases h
  rw [(listed_written hns (by decide) hab).line_eq hns.length_eq]
  rfl

/-- **Numbers of a type with one amount** are read as such. -/
theorem line_single {t : PlayType} (ht : t ∈ [PlayType.centena, .parle, .tripleta])
    (hns : OfWidth t.digits ns) (ha : IsNumeral a) :
    line locked (written ns [a]) = (do
      let first ← amount a
      single t (ns.map String.ofList) first (if t = .parle then some .direct else none)) := by
  have ha' : ∀ p ∈ [a], IsNumeral p := by
    intro p hp
    rwa [List.mem_singleton.1 hp]
  rw [(listed_written hns t.digits_pos ha').line_eq hns.length_eq]
  simp only [List.mem_cons, List.not_mem_nil, or_false] at ht
  rcases ht with rfl | rfl | rfl <;> rfl

/-! ### Lines of pairs -/

section Pairs

variable (hns : OfWidth 2 ns) (ha : IsNumeral a)
include hns ha

/-- A line of pairs begins and ends with digits. -/
theorem flush_writtenPairs : Text.Flush (writtenPairs ns a) := by
  refine Text.flush_intercalate _ (List.cons_ne_nil _ _) fun p hp => ?_
  rcases List.mem_cons.1 hp with rfl | hp
  · exact hns.flush_intercalate (by decide) ['*']
  · rw [List.mem_singleton.1 hp]
    exact ha.flush

/-- Neither the groups nor the amount have a character that is no digit and no star. -/
theorem not_mem_of_mem_parts {d : Char} (hd : d.isDigit = false) (hstar : d ≠ '*') :
    ∀ p ∈ [['*'].intercalate ns, a], d ∉ p := by
  intro p hp hmem
  rcases List.mem_cons.1 hp with rfl | hp
  · rcases Text.mem_intercalate hmem with rfl | ⟨n, hn, hmem⟩
    · exact hstar rfl
    · exact Text.ne_of_isDigit ((hns.allNumbers n hn) d hmem) hd rfl
  · obtain rfl := List.mem_singleton.1 hp
    exact Text.ne_of_isDigit (ha.allDigits d hmem) hd rfl

/-- There are digits, stars and one dash in it, nothing else. -/
theorem not_mem_writtenPairs {d : Char} (hd : d.isDigit = false) (hstar : d ≠ '*')
    (hdash : d ≠ '-') : d ∉ writtenPairs ns a := by
  intro hmem
  rcases Text.mem_intercalate hmem with rfl | ⟨p, hp, hmem⟩
  · exact hdash rfl
  · exact not_mem_of_mem_parts hns ha hd hstar p hp hmem

end Pairs

/-- Numbers of two digits are base numbers as they stand. -/
theorem bases_eq (hns : OfWidth 2 ns) : bases ns = ns := by
  have hfill : ns.map fill = ns := by
    rw [List.map_congr_left, List.map_id']
    intro n hn
    match n, hns.length_eq n hn with
    | [_, _], _ => rfl
  rw [bases, numbers_numerals (hns.isNumeral (by decide)), hfill, List.filter_eq_self]
  intro n hn
  rw [beq_iff_eq, hns.length_eq n hn]

/-- The amount of a line with stars, where it is a numeral: what is checked, in this order. -/
theorem pairsStake_eq (ha : IsNumeral a) (bases pairs : Nat) :
    pairsStake locked a bases pairs = (do
      let n ← amount a
      if bases < 2 then .error .tooFewGroups
      else if n = 0 then .error (.zeroAmount .parle)
      else if locked then if n < pairs then .error .shareTooSmall else .ok (n / pairs, n)
      else .ok (n, n * pairs)) := by
  have hdash : ∀ c ∈ a, (c == '-') = false := fun c hc =>
    beq_eq_false_iff_ne.2 (Text.ne_of_isDigit (ha.allDigits c hc) (by decide))
  have hne : a.isEmpty = false := by simpa using ha.ne_nil
  rw [pairsStake, Text.pieces_eq_singleton hdash]
  dsimp only
  rw [hne, if_neg Bool.false_ne_true]

/-- The same where there are groups enough. -/
theorem pairsStake_numeral (ha : IsNumeral a) {bases : Nat} (hlen : 2 ≤ bases) (pairs : Nat) :
    pairsStake locked a bases pairs = (do
      let n ← amount a
      if n = 0 then .error (.zeroAmount .parle)
      else if locked then if n < pairs then .error .shareTooSmall else .ok (n / pairs, n)
      else .ok (n, n * pairs)) := by
  rw [pairsStake_eq ha]
  simp only [if_neg (Nat.not_lt.2 hlen)]

/-- **Groups with stars** are paired at one amount. -/
theorem line_pairs (hns : OfWidth 2 ns) (hlen : 2 ≤ ns.length) :
    line locked (writtenPairs ns a) = (pairsStake locked a ns.length (pairs ns).length).map
      fun x => [⟨.parle, pairNumbers ns, x.1, x.2, some .pairs⟩] := by
  -- Digits are neither stars nor dashes, so the line is cut where it was joined.
  have hts : ∀ n ∈ ns, '*' ∉ n ∧ '-' ∉ n := fun n hn =>
    ⟨fun h => Text.ne_of_isDigit (hns.allNumbers n hn _ h) (by decide) rfl,
      fun h => Text.ne_of_isDigit (hns.allNumbers n hn _ h) (by decide) rfl⟩
  have hwritten : writtenPairs ns a = starred ns a := by
    simp [writtenPairs, starred, List.intercalate_cons_cons]
  have hline := line_starred hts locked a hlen
  simp only [pairsWager, bases_eq hns] at hline
  rw [hwritten, hline]

end Dash

end Slip
end Lottery
