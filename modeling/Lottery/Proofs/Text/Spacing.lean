/-
# Blanks around separators

Where a text is cut at a separator and its pieces are trimmed, blanks around the
separator do not matter (`Joined.map_trim_pieces_eq`).  Where it is cut at runs
of separators, they do not matter if they are separators too; a text may be cut at
one class of separators and its words at another one, which gives the words
between separators of both (`words_or`).
-/

import Lottery.Proofs.Text.Breaks

namespace Lottery
namespace Text

variable {cs pre post : List Char}

/-! ### Two classes of separators -/

/-- Cutting at two kinds of separators is cutting at the one and then at the other. -/
theorem pieces_or (p q : Char → Bool) (cs : List Char) :
    pieces (fun c => p c || q c) cs = (pieces p cs).flatMap (pieces q) := by
  induction cs with
  | nil => rfl
  | cons c cs ih =>
    obtain ⟨d, ds, hd⟩ := List.exists_cons_of_ne_nil (pieces_ne_nil p cs)
    rw [pieces, ih]
    -- A separator of either class cuts, one of the first class between two texts.
    cases hp : p c with
    | true =>
      rw [pieces, hp]
      rfl
    | false =>
      rw [pieces, hp, hd]
      cases hq : q c with
      | true => simp [attach, pieces, hq]
      | false =>
        obtain ⟨e, es, he⟩ := List.exists_cons_of_ne_nil (pieces_ne_nil q d)
        simp [attach, pieces, hq, he]

/-- **The words between separators of two classes are the words of the words.** -/
theorem words_or (p q : Char → Bool) (cs : List Char) :
    words (fun c => p c || q c) cs = (words p cs).flatMap (words q) := by
  rw [words, pieces_or, words]
  generalize pieces p cs = ps
  induction ps with
  | nil => rfl
  | cons d ds ih =>
    rw [List.flatMap_cons, List.filter_append, ih]
    -- An empty piece has no words, so it may be left out or kept.
    cases d with
    | nil => rfl
    | cons c d => rfl

/-! ### Margins -/

/-- Blanks at the end are trimmed. -/
theorem trim_append_blank (h : AllBlank post) (cs : List Char) : trim (cs ++ post) = trim cs := by
  induction post generalizing cs with
  | nil => rw [List.append_nil]
  | cons c post ih =>
    rw [← List.singleton_append, ← List.append_assoc,
      ih fun d hd => h d (List.mem_cons_of_mem c hd), trim, strip_concat (h c List.mem_cons_self),
      ← trim]

/-- The words of a text are those of the text without its margins. -/
theorem words_trim (cs : List Char) : words isBlank (trim cs) = words isBlank cs := by
  obtain ⟨pre, post, hpre, hpost, hcs⟩ := exists_margins cs
  have hwords := congrArg (words isBlank) hcs
  rw [words_append_run hpost, words_run_append hpre] at hwords
  exact hwords.symm

/-- Blanks before a text do not matter to its pieces once they are trimmed. -/
theorem map_trim_pieces_blank_append {d : Char} (hd : isBlank d = false) (h : AllBlank pre)
    (cs : List Char) :
    (pieces (· == d) (pre ++ cs)).map trim = (pieces (· == d) cs).map trim := by
  induction pre with
  | nil => rfl
  | cons c pre ih =>
    have hc : isBlank c = true := h c List.mem_cons_self
    -- A blank is no separator, so it joins the first piece and is trimmed there.
    have hcd : (c == d) = false := by
      rw [beq_eq_false_iff_ne]
      rintro rfl
      rw [hc] at hd
      cases hd
    rw [← ih fun e he => h e (List.mem_cons_of_mem c he), List.cons_append, pieces, hcd,
      if_neg Bool.false_ne_true]
    obtain ⟨p, ps, hp⟩ := List.exists_cons_of_ne_nil (pieces_ne_nil (· == d) (pre ++ cs))
    rw [hp, attach, List.map_cons, trim, strip_cons hc]
    rfl

/-! ### Separators with blanks around them -/

/-- A separator with blanks before and behind it, or without. -/
def IsSpaced (d : Char) (j : List Char) : Prop :=
  ∃ pre post, AllBlank pre ∧ AllBlank post ∧ j = pre ++ d :: post

/-- **Pieces with a spaced separator between each two are read back** once they are trimmed. -/
theorem Joined.map_trim_pieces_eq {between : List Char → Prop} {ps : List (List Char)} {d : Char}
    (h : Joined between ps cs) (hd : isBlank d = false)
    (hbetween : ∀ j, between j → IsSpaced d j) (hps : ∀ p ∈ ps, Flush p ∧ d ∉ p) :
    (pieces (· == d) cs).map trim = ps := by
  -- Blanks beside a text do not divide it, so they are trimmed off one piece.
  have hpiece : ∀ p post, d ∉ p → AllBlank post → pieces (· == d) (p ++ post) = [p ++ post] := by
    intro p post hp hpost
    refine pieces_eq_singleton fun c hc => beq_eq_false_iff_ne.2 ?_
    rintro rfl
    rcases List.mem_append.1 hc with hc | hc
    · exact hp hc
    · rw [hpost c hc] at hd
      cases hd
  induction h with
  | single p =>
    obtain ⟨hflush, hp⟩ := hps p List.mem_cons_self
    have hsingle := hpiece p [] hp fun _ hc => absurd hc List.not_mem_nil
    rw [List.append_nil] at hsingle
    rw [hsingle, List.map_singleton, hflush.trim]
  | cons p hj h ih =>
    obtain ⟨hflush, hp⟩ := hps p List.mem_cons_self
    obtain ⟨pre, post, hpre, hpost, rfl⟩ := hbetween _ hj
    rw [← List.append_assoc, List.append_assoc, List.cons_append, pieces_append_cons (by simp),
      List.map_append, hpiece p pre hp hpre, map_trim_pieces_blank_append hd hpost,
      ih fun q hq => hps q (List.mem_cons_of_mem p hq), List.map_singleton,
      trim_append_blank hpre, hflush.trim, List.singleton_append]

/-- And none of them is empty, so the text has no others. -/
theorem Joined.parts_eq {between : List Char → Prop} {ps : List (List Char)} {d : Char}
    (h : Joined between ps cs) (hd : isBlank d = false)
    (hbetween : ∀ j, between j → IsSpaced d j) (hps : ∀ p ∈ ps, Flush p ∧ d ∉ p) :
    (((pieces (· == d) cs).map trim).filter fun p => !p.isEmpty) = ps := by
  rw [h.map_trim_pieces_eq hd hbetween hps, List.filter_eq_self]
  intro p hp
  simpa using (hps p hp).1.ne_nil

/-! ### On one line -/

/-- What may stand between two texts of one line. -/
def Inline (between : List Char → Prop) (j : List Char) : Prop :=
  between j ∧ '\n' ∉ j

/-- Pieces that are joined within a line are one line. -/
theorem Joined.newline_not_mem {between : List Char → Prop} {ps : List (List Char)}
    (h : Joined (Inline between) ps cs) (hps : ∀ p ∈ ps, '\n' ∉ p) : '\n' ∉ cs := by
  intro hc
  rcases h.mem hc with ⟨j, hj, hc⟩ | ⟨p, hp, hc⟩
  · exact hj.2 hc
  · exact hps p hp hc

end Text
end Lottery
