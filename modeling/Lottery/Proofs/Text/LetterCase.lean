/-
# Letters in lower case

`lower` puts the ASCII letters of a text in lower case and leaves every other character alone.
Two texts are `Recased` if they differ in the case of such letters only, which is so exactly if
they are the same in lower case (`recased_iff`).

No class of characters that is read by tells the two cases of a letter apart: neither blanks and
separators nor word characters and digits do (`apply_toLower`).  So a text is cut into pieces
and words at the same places in lower case, is trimmed alike and has the same digits
(`pieces_lower`, `words_lower`, `trim_lower`, `digitsOf_lower`).
-/

import Lottery.Text.Blank
import Lottery.Text.Digit
import Lottery.Text.Word
import Mathlib.Data.List.Forall2
import Mathlib.Data.List.Nodup

namespace Lottery
namespace Text

variable {α : Type} {c d : Char} {cs ds : List Char}

/-! ### Characters -/

/-- The capital letters of ASCII. -/
def capitals : List Char :=
  "ABCDEFGHIJKLMNOPQRSTUVWXYZ".toList

/-- Only the 26 capitals have another small form. -/
theorem toLower_eq_self (h : c ∉ capitals) : c.toLower = c := by
  unfold Char.toLower
  split
  · next hc =>
    refine absurd ?_ h
    have hlow : 65 ≤ c.toNat := UInt32.le_iff_toNat_le.1 hc.1
    have hhigh : c.toNat ≤ 90 := UInt32.le_iff_toNat_le.1 hc.2
    -- What is put in lower case is between 65 and 90, and these are the capitals.
    have hall : ∀ n < 91, 65 ≤ n → Char.ofNat n ∈ capitals := by decide
    rw [← Char.ofNat_toNat c]
    exact hall c.toNat (by omega) hlow
  · rfl

/-- **What does not tell a capital from its small letter** tells no character from its lower
case. -/
theorem apply_toLower {f : Char → α} (h : (capitals.map fun c => f c.toLower) = capitals.map f)
    (c : Char) : f c.toLower = f c := by
  by_cases hc : c ∈ capitals
  · exact List.map_inj_left.1 h c hc
  · rw [toLower_eq_self hc]

/-- A small letter stays what it is. -/
@[simp] theorem toLower_toLower (c : Char) : c.toLower.toLower = c.toLower :=
  apply_toLower (by decide) c

/-- Digits have no case, and no letter becomes one. -/
@[simp] theorem isDigit_toLower (c : Char) : c.toLower.isDigit = c.isDigit :=
  apply_toLower (by decide) c

/-- Neither have blanks. -/
@[simp] theorem isBlank_toLower (c : Char) : isBlank c.toLower = isBlank c :=
  apply_toLower (by decide) c

/-- A capital and its small letter are word characters both. -/
@[simp] theorem isWord_toLower (c : Char) : isWord c.toLower = isWord c :=
  apply_toLower (by decide +kernel) c

/-- A digit is its own small form. -/
theorem toLower_of_isDigit (h : c.isDigit = true) : c.toLower = c := by
  refine toLower_eq_self fun hc => ?_
  have hnone : capitals.any Char.isDigit = false := by decide
  exact List.any_eq_false.1 hnone c hc h

/-- Two characters with one lower case are the same, or one of them is that of the other. -/
theorem toLower_eq_toLower_iff :
    c.toLower = d.toLower ↔ c = d ∨ c.toLower = d ∨ c = d.toLower := by
  constructor
  · intro h
    -- Lower case changes the 26 capitals only, and no two of them alike.
    by_cases hc : c ∈ capitals
    · by_cases hd : d ∈ capitals
      · have hnodup : (capitals.map Char.toLower).Nodup := by decide
        exact .inl (List.inj_on_of_nodup_map hnodup hc hd h)
      · exact .inr (.inl (h.trans (toLower_eq_self hd)))
    · exact .inr (.inr ((toLower_eq_self hc).symm.trans h))
  · rintro (rfl | rfl | rfl)
    · rfl
    · exact (toLower_toLower c).symm
    · exact toLower_toLower d

/-- Only a letter and its upper case are this letter in lower case. -/
theorem eq_or_eq_toUpper_of_toLower_eq (h : c.toLower = d) : c = d ∨ c = d.toUpper := by
  by_cases hc : c ∈ capitals
  · have hupper : (capitals.map fun a => a.toLower.toUpper) = capitals.map id := by decide
    exact .inr (h ▸ (List.map_inj_left.1 hupper c hc).symm)
  · exact .inl ((toLower_eq_self hc).symm.trans h)

/-! ### Texts -/

/-- A text with its ASCII letters in lower case. -/
def lower (cs : List Char) : List Char :=
  cs.map Char.toLower

/-- Character by character the texts are the same, or one has a letter in lower case that the
other has as a capital. -/
def Recased (cs ds : List Char) : Prop :=
  List.Forall₂ (fun c d => c = d ∨ c.toLower = d ∨ c = d.toLower) cs ds

/-- Two texts are compared character by character, so being recased is decidable. -/
instance instDecidableRecased (cs ds : List Char) : Decidable (Recased cs ds) :=
  inferInstanceAs (Decidable (List.Forall₂ _ cs ds))

/-- **Recased texts are those that are the same in lower case.** -/
theorem recased_iff : Recased cs ds ↔ lower cs = lower ds := by
  simp only [Recased, ← toLower_eq_toLower_iff]
  rw [lower, lower, ← List.forall₂_eq_eq_eq, List.forall₂_map_left_iff,
    List.forall₂_map_right_iff]

/-- Small letters are as many. -/
@[simp] theorem isEmpty_lower (cs : List Char) : (lower cs).isEmpty = cs.isEmpty :=
  List.isEmpty_map

/-- Letter case is changed character by character. -/
theorem lower_append (cs ds : List Char) : lower (cs ++ ds) = lower cs ++ lower ds :=
  List.map_append

/-- A character is attached alike in either case. -/
theorem attach_lower (c : Char) (ps : List (List Char)) :
    attach c.toLower (ps.map lower) = (attach c ps).map lower := by
  cases ps <;> rfl

/-- What stands between two texts may be anything without capitals. -/
theorem intercalate_lower {j : List Char} (hj : lower j = j) (ps : List (List Char)) :
    j.intercalate (ps.map lower) = lower (j.intercalate ps) := by
  induction ps with
  | nil => rfl
  | cons p ps ih =>
    cases ps with
    | nil => rw [List.map_singleton, List.intercalate_singleton, List.intercalate_singleton]
    | cons q ps =>
      rw [List.map_cons, List.map_cons, List.intercalate_cons_cons, ← List.map_cons, ih,
        List.intercalate_cons_cons, lower_append, lower_append, hj]

section Separators

variable {sep : Char → Bool} (hsep : ∀ c, sep c.toLower = sep c)
include hsep

/-- Separators that are told without regard to case cut a text at the same places. -/
theorem pieces_lower (cs : List Char) : pieces sep (lower cs) = (pieces sep cs).map lower := by
  induction cs with
  | nil => rfl
  | cons c cs ih =>
    show pieces sep (c.toLower :: lower cs) = _
    rw [pieces, pieces, hsep, ih]
    split
    · rfl
    · exact attach_lower c _

/-- So they leave the same words, in small letters. -/
theorem words_lower (cs : List Char) : words sep (lower cs) = (words sep cs).map lower := by
  rw [words, words, pieces_lower hsep, List.filter_map]
  simp only [Function.comp_def, isEmpty_lower]

/-- They are stripped alike as well. -/
theorem strip_lower (cs : List Char) : strip sep (lower cs) = lower (strip sep cs) := by
  have hdrop : ∀ ds, (lower ds).dropWhile sep = lower (ds.dropWhile sep) := by
    intro ds
    rw [lower, List.dropWhile_map, lower]
    simp only [Function.comp_def, hsep]
  rw [strip, hdrop, lower, ← List.map_reverse, ← lower, hdrop, lower, ← List.map_reverse]
  rfl

end Separators

/-- Margins are blanks, so trimming does not depend on case. -/
theorem trim_lower (cs : List Char) : trim (lower cs) = lower (trim cs) :=
  strip_lower isBlank_toLower cs

/-- Trimmed pieces without the empty ones, in lower case before or after. -/
theorem trimmed_lower (ps : List (List Char)) :
    ((ps.map lower).map trim).filter (fun p => !p.isEmpty) =
      ((ps.map trim).filter fun p => !p.isEmpty).map lower := by
  have htrim : (ps.map lower).map trim = (ps.map trim).map lower := by
    simp only [List.map_map, Function.comp_def, trim_lower]
  rw [htrim, List.filter_map]
  simp only [Function.comp_def, isEmpty_lower]

/-- The lines of a text in lower case are its lines in lower case. -/
theorem lines_lower (cs : List Char) : lines (lower cs) = (lines cs).map lower := by
  rw [lines, pieces_lower (apply_toLower (by decide)), trimmed_lower]
  rfl

/-- **Digits have no case.** -/
@[simp] theorem digitsOf_lower (cs : List Char) : digitsOf (lower cs) = digitsOf cs := by
  rw [digitsOf, lower, List.filter_map]
  simp only [Function.comp_def, isDigit_toLower]
  exact (List.map_congr_left fun c hc => toLower_of_isDigit (List.mem_filter.1 hc).2).trans
    (List.map_id' _)

end Text
end Lottery
