/-
# Charged numbers and playable numbers

A text is charged for the parts between its commas and spaces, and plays the parts
between its commas alone; parts that are blank throughout count for neither.

| text | charged | playable |
| --- | ---: | ---: |
| `12,34` | 2 | 2 |
| ` 12 ,, 34, ` | 2 | 2 |
| `12⇥34` | 1 | 1 |
| `12 34,56` | 3 | 2 |

Both counts go piece by piece between the commas.  A piece is playable if it has a part
between spaces at all (`parts_eq_nil_iff`), and it has more than one exactly if it is
`Divided` (`one_lt_length_parts_iff`).  So no number plays without a charge, and only a
divided piece is charged for more than it plays (`playable_le_charged`).

`count_numbers` is what is charged for, in `collected_amount`; `split_bet_numbers`
is what is played, in `as_bet`.
-/

import Lottery.Proofs.Numbers
import Lottery.Proofs.Text.Spacing
import Mathlib.Data.List.TakeWhile

namespace Lottery

namespace Text

variable {cs : List Char}

/-- Trimming leaves nothing of blanks, and something of any other text. -/
theorem trim_eq_nil_iff : trim cs = [] ↔ AllBlank cs := by
  constructor
  · intro h
    obtain ⟨pre, post, hpre, hpost, hcs⟩ := exists_margins cs
    rw [h, List.append_nil] at hcs
    rw [hcs]
    intro c hc
    exact (List.mem_append.1 hc).elim (hpre c) (hpost c)
  · exact fun h => trim_append_blank h []

/-- A text has no separator, or its first one stands behind a text without. -/
theorem separated_induction {motive : List Char → Prop} (sep : Char)
    (single : ∀ p, sep ∉ p → motive p)
    (cons : ∀ p cs, sep ∉ p → motive cs → motive (p ++ sep :: cs)) (cs : List Char) :
    motive cs := by
  induction h : cs.length using Nat.strongRecOn generalizing cs with
  | ind n ih =>
    -- The text is cut at its first separator, and what is behind it is shorter.
    by_cases hsep : sep ∈ cs
    · obtain ⟨p, rest, rfl, hp⟩ := List.eq_append_cons_of_mem hsep
      refine cons p rest hp (ih rest.length ?_ rest rfl)
      rw [← h, List.length_append, List.length_cons]
      omega
    · exact single cs hsep

end Text

namespace Numbers

open Text (AllBlank pieces trim)

variable {p : List Char}

/-- Two parts that are not blank with a space between them. -/
def Divided (p : List Char) : Prop :=
  ∃ x y, p = x ++ ' ' :: y ∧ ¬AllBlank x ∧ ¬AllBlank y

/-- The parts of a text between spaces that are not blank. -/
def parts (p : List Char) : List (List Char) :=
  (pieces (· == ' ') p).filter fun w => !(trim w).isEmpty

/-- A space parts the numbers that are charged. -/
theorem parts_append_space (x y : List Char) : parts (x ++ ' ' :: y) = parts x ++ parts y := by
  rw [parts, Text.pieces_append_cons (by decide), List.filter_append]
  rfl

/-- A piece is left out exactly if it is blank. -/
theorem isEmpty_trim_eq_true_iff : (trim p).isEmpty = true ↔ AllBlank p := by
  rw [List.isEmpty_iff, Text.trim_eq_nil_iff]

/-- A text without a space is one part, unless it is blank. -/
theorem parts_of_not_mem (h : ' ' ∉ p) : parts p = if AllBlank p then [] else [p] := by
  have hspace : ∀ c ∈ p, (c == ' ') = false := fun c hc =>
    beq_eq_false_iff_ne.2 fun he => h (he ▸ hc)
  rw [parts, Text.pieces_eq_singleton hspace, List.filter_singleton]
  by_cases hp : AllBlank p
  · rw [if_pos hp, isEmpty_trim_eq_true_iff.2 hp]
    rfl
  · rw [if_neg hp, Bool.eq_false_iff.2 fun he => hp (isEmpty_trim_eq_true_iff.1 he)]
    rfl

/-- A text with a space in it is blank if both sides are. -/
theorem allBlank_append_space {x y : List Char} :
    AllBlank (x ++ ' ' :: y) ↔ AllBlank x ∧ AllBlank y := by
  have hspace : Text.isBlank ' ' = true := by decide
  simp only [AllBlank, List.forall_mem_append, List.forall_mem_cons, hspace, true_and]

/-- **Exactly the blank texts have no part.** -/
theorem parts_eq_nil_iff : parts p = [] ↔ AllBlank p := by
  induction p using Text.separated_induction ' ' with
  | single p hp =>
    rw [parts_of_not_mem hp]
    split <;> simp_all
  | cons x y hx ih =>
    rw [parts_append_space, List.append_eq_nil_iff, ih, allBlank_append_space, parts_of_not_mem hx]
    split <;> simp_all

/-- A piece is charged for at all exactly if it is not blank. -/
theorem length_parts_pos_iff : 0 < (parts p).length ↔ ¬AllBlank p := by
  rw [List.length_pos_iff, Ne, parts_eq_nil_iff]

/-- **A text has more than one part exactly if it is divided.** -/
theorem one_lt_length_parts_iff : 1 < (parts p).length ↔ Divided p := by
  constructor
  · intro h
    -- Along the spaces of `p`: each one divides what stands before it from the rest.
    induction p using Text.separated_induction ' ' with
    | single p hp =>
      rw [parts_of_not_mem hp] at h
      split at h <;> simp at h
    | cons x y hx ih =>
      rw [parts_append_space, List.length_append, parts_of_not_mem hx] at h
      -- A blank beginning is no part, so it is left to the rest to be divided.
      by_cases hblank : AllBlank x
      · rw [if_pos hblank, List.length_nil, Nat.zero_add] at h
        obtain ⟨x', y', rfl, hx', hy'⟩ := ih h
        refine ⟨x ++ ' ' :: x', y', ?_, fun hall => hx' (allBlank_append_space.1 hall).2, hy'⟩
        rw [List.append_assoc, List.cons_append]
      · rw [if_neg hblank, List.length_singleton] at h
        exact ⟨x, y, rfl, hblank, length_parts_pos_iff.1 (by omega)⟩
  · rintro ⟨x, y, rfl, hx, hy⟩
    rw [parts_append_space, List.length_append]
    have hpos := length_parts_pos_iff.2 hx
    have hpos' := length_parts_pos_iff.2 hy
    omega

/-- The space between two parts is left when the text is trimmed. -/
theorem Divided.space_mem_trim (h : Divided p) : ' ' ∈ trim p := by
  obtain ⟨x, y, rfl, hx, hy⟩ := h
  -- Trimming stops at what is not blank, on either side of the space.
  have hstay : ∀ {z : List Char}, ¬AllBlank z → (z.dropWhile Text.isBlank).isEmpty = false := by
    intro z hz
    rw [Bool.eq_false_iff, Ne, List.isEmpty_iff, List.dropWhile_eq_nil_iff]
    exact hz
  have hy' : ¬AllBlank y.reverse := fun hall => hy fun c hc => hall c (List.mem_reverse.2 hc)
  rw [trim, Text.strip, List.mem_reverse, List.dropWhile_append, hstay hx,
    if_neg Bool.false_ne_true, List.reverse_append, List.reverse_cons, List.append_assoc,
    List.dropWhile_append, hstay hy', if_neg Bool.false_ne_true]
  simp

/-! ### Piece by piece -/

/-- The numbers that are charged for are the parts of the pieces between the commas. -/
theorem countText_eq (s : String) :
    countText s = ((pieces (· == ',') s.toList).flatMap parts).length := by
  have hgap : isGap = fun c => c == ',' || c == ' ' := by
    funext c
    rw [isGap, Bool.or_comm]
  -- A part that is not blank is not empty, so one test is enough.
  have hsame : ∀ w : List Char, (!(trim w).isEmpty && !w.isEmpty) = !(trim w).isEmpty := by
    intro w
    cases w with
    | nil => rfl
    | cons c w => rw [List.isEmpty_cons, Bool.not_false, Bool.and_true]
  rw [countText, Text.words, List.filter_filter, hgap, Text.pieces_or, List.filter_flatMap]
  simp only [hsame]
  rfl

/-- The numbers that play are the pieces between the commas, without the blank ones. -/
theorem length_ofText (s : String) :
    (ofText s).length =
      ((pieces (· == ',') s.toList).filter fun p => !(trim p).isEmpty).length := by
  rw [ofText, trimmed, List.length_map, List.filter_map, List.length_map]
  rfl

/-- **Of some pieces no more play than are charged for,** and as many exactly if none of them is
divided. -/
theorem length_flatMap_parts (ps : List (List Char)) :
    (ps.filter fun p => !(trim p).isEmpty).length ≤ (ps.flatMap parts).length ∧
      ((ps.flatMap parts).length = (ps.filter fun p => !(trim p).isEmpty).length ↔
        ∀ p ∈ ps, ¬Divided p) := by
  -- Bound and equality together: the lengths are equal only if they are so piece by piece.
  induction ps with
  | nil => simp
  | cons p ps ih =>
    obtain ⟨hle, hiff⟩ := ih
    rw [List.flatMap_cons, List.length_append, List.filter_cons, List.forall_mem_cons, ← hiff,
      ← one_lt_length_parts_iff]
    by_cases hp : AllBlank p
    · rw [isEmpty_trim_eq_true_iff.2 hp, parts_eq_nil_iff.2 hp, List.length_nil, Bool.not_true,
        if_neg Bool.false_ne_true]
      omega
    · have hpos := length_parts_pos_iff.2 hp
      rw [Bool.eq_false_iff.2 fun he => hp (isEmpty_trim_eq_true_iff.1 he), Bool.not_false,
        if_pos rfl, List.length_cons]
      omega

/-- **No number plays that is not charged for.**  As many are charged for as play exactly if no
piece between the commas is divided by a space; blanks of any other kind, and spaces and commas
at the ends of the pieces or one after the other, make no difference. -/
theorem playable_le_charged (s : String) :
    ∃ ns n, ofValue (.text s) = .ok ns ∧ count (.text s) = .ok n ∧ ns.length ≤ n ∧
      (n = ns.length ↔ ¬∃ p ∈ pieces (· == ',') s.toList, Divided p) ∧
      ((∀ p ∈ pieces (· == ',') s.toList, ' ' ∉ trim p) → n = ns.length) := by
  -- Both counts are of the same pieces between commas.
  obtain ⟨hle, hiff⟩ := length_flatMap_parts (pieces (· == ',') s.toList)
  rw [← countText_eq, ← length_ofText] at hle hiff
  refine ⟨ofText s, countText s, ofValue_text s, count_text s, hle, ?_, fun h => ?_⟩
  · rw [hiff]
    push Not
    rfl
  · exact hiff.2 fun p hp hdivided => h p hp hdivided.space_mem_trim

example : countText " 12 ,,\t34, " = 2 ∧ countText "12 34,56" = 3 ∧
    ofText "12 34,56" = ["12 34", "56"] := by
  decide +kernel

end Numbers
end Lottery
