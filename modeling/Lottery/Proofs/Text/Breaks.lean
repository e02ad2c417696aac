/-
# Blanks and the lines of a text

A line end parts the lines before it from those after it
(`lines_append_newline`), and blanks at an end of a text do not matter to its
lines, be they line ends or not (`lines_append_blank`, `lines_blank_append`).  So

| text | has the lines of |
| --- | --- |
| `t`, a break, `u` | `t` and then `u` (`lines_append_break`) |
| texts with a break between each two | each of them in turn (`lines_intercalate_break`) |
| lines with other margins, blank ones put in | the same lines (`Respaced.lines_eq`) |

where a break is any blank text with a line end in it, `"\n"` as well as
`"\r\n"`.  The margins of a text may be left out before it is cut, and it may be
cut at runs of line ends (`lines_eq_words`).
-/

import Lottery.Proofs.Text.Pieces

namespace Lottery
namespace Text

variable {cs pre post : List Char}

/-! ### Margins -/

/-- Nothing but blanks. -/
def AllBlank (cs : List Char) : Prop :=
  ∀ c ∈ cs, isBlank c = true

/-- Characters are looked at one by one. -/
instance instDecidableAllBlank (cs : List Char) : Decidable (AllBlank cs) :=
  List.decidableBAll _ cs

/-- A text is what is left of it between two margins. -/
theorem exists_margins (cs : List Char) :
    ∃ pre post, AllBlank pre ∧ AllBlank post ∧ cs = pre ++ trim cs ++ post := by
  have hblank : ∀ ds : List Char, AllBlank (ds.takeWhile isBlank) := fun ds c hc =>
    List.all_eq_true.1 List.all_takeWhile c hc
  refine ⟨cs.takeWhile isBlank, ((cs.dropWhile isBlank).reverse.takeWhile isBlank).reverse,
    hblank cs, fun c hc => hblank _ c (List.mem_reverse.1 hc), ?_⟩
  rw [trim, strip, List.append_assoc, ← List.reverse_append, List.takeWhile_append_dropWhile,
    List.reverse_reverse, List.takeWhile_append_dropWhile]

/-! ### Line ends -/

/-- **A line end parts the lines of a text.** -/
theorem lines_append_newline (as bs : List Char) :
    lines (as ++ '\n' :: bs) = lines as ++ lines bs := by
  rw [lines, pieces_append_cons (by decide), List.map_append, List.filter_append]
  rfl

/-- A text without a line end is one line, or none if it is blank. -/
theorem lines_of_not_mem (h : '\n' ∉ cs) :
    lines cs = [trim cs].filter fun p => !p.isEmpty := by
  have hend : ∀ c ∈ cs, (c == '\n') = false := fun c hc =>
    beq_eq_false_iff_ne.2 fun he => h (he ▸ hc)
  rw [lines, pieces_eq_singleton hend]
  rfl

/-- A text with a line end has a last one. -/
theorem exists_last_newline (h : '\n' ∈ cs) : ∃ as bs, cs = as ++ '\n' :: bs ∧ '\n' ∉ bs := by
  obtain ⟨as, bs, he, hbs⟩ := List.eq_append_cons_of_mem (List.mem_reverse.2 h)
  refine ⟨bs.reverse, as.reverse, ?_, fun hmem => hbs (List.mem_reverse.1 hmem)⟩
  rw [← List.reverse_reverse cs, he, List.reverse_append, List.reverse_cons, List.append_assoc]
  rfl

/-- A blank in front is trimmed from the first line, or ends a line that is empty. -/
theorem lines_cons_of_isBlank {c : Char} (hc : isBlank c = true) (cs : List Char) :
    lines (c :: cs) = lines cs := by
  by_cases he : c = '\n'
  · subst he
    exact lines_append_newline [] cs
  · have hpieces : pieces (· == '\n') (c :: cs) = attach c (pieces (· == '\n') cs) := by
      rw [pieces, if_neg (by simpa using he)]
    obtain ⟨p, ps, hp⟩ := List.exists_cons_of_ne_nil (pieces_ne_nil (· == '\n') cs)
    rw [lines, hpieces, hp, attach, List.map_cons, trim, strip_cons hc, lines, hp]
    rfl

/-- The same at the end. -/
theorem lines_concat_of_isBlank {c : Char} (hc : isBlank c = true) (cs : List Char) :
    lines (cs ++ [c]) = lines cs := by
  -- Behind the last line end stands one line, whose margin the blank belongs to.
  have hsame : ∀ bs, '\n' ∉ bs → lines (bs ++ [c]) = lines bs := by
    intro bs hbs
    by_cases he : c = '\n'
    · subst he
      rw [lines_append_newline]
      exact List.append_nil _
    · rw [lines_of_not_mem hbs, lines_of_not_mem (by simp [hbs, Ne.symm he]), trim,
        strip_concat hc]
      rfl
  by_cases hmem : '\n' ∈ cs
  · obtain ⟨as, bs, rfl, hbs⟩ := exists_last_newline hmem
    rw [List.append_assoc, List.cons_append, lines_append_newline, lines_append_newline, hsame bs hbs]
  · exact hsame cs hmem

/-- **Blanks before a text do not matter.** -/
theorem lines_blank_append (h : AllBlank pre) (cs : List Char) : lines (pre ++ cs) = lines cs := by
  induction pre with
  | nil => rfl
  | cons c pre ih =>
    rw [List.cons_append, lines_cons_of_isBlank (h c List.mem_cons_self)]
    exact ih fun d hd => h d (List.mem_cons_of_mem c hd)

/-- **Nor do blanks behind it.** -/
theorem lines_append_blank (h : AllBlank post) (cs : List Char) :
    lines (cs ++ post) = lines cs := by
  induction post generalizing cs with
  | nil => rw [List.append_nil]
  | cons c post ih =>
    rw [← List.singleton_append, ← List.append_assoc,
      ← lines_concat_of_isBlank (h c List.mem_cons_self) cs]
    exact ih (fun d hd => h d (List.mem_cons_of_mem c hd)) (cs ++ [c])

/-- Blanks alone have no lines. -/
theorem lines_of_allBlank (h : AllBlank cs) : lines cs = [] := by
  have hlines := lines_blank_append h []
  rwa [List.append_nil] at hlines

/-- Blanks at both ends do not matter to the lines. -/
theorem lines_margins (hpre : AllBlank pre) (hpost : AllBlank post) (cs : List Char) :
    lines (pre ++ cs ++ post) = lines cs := by
  rw [lines_append_blank hpost, lines_blank_append hpre]

/-- **The margins of a text may be left out first, and it may be cut at runs of line ends:** that
gives the same lines. -/
theorem lines_eq_words (cs : List Char) :
    lines cs = ((words (· == '\n') (trim cs)).map trim).filter fun p => !p.isEmpty := by
  obtain ⟨pre, post, hpre, hpost, hcs⟩ := exists_margins cs
  have htrim : lines cs = lines (trim cs) :=
    (congrArg lines hcs).trans (lines_margins hpre hpost (trim cs))
  rw [htrim, lines, words]
  generalize pieces (· == '\n') (trim cs) = ps
  -- A piece that is empty is blank, so it makes no line either way.
  induction ps with
  | nil => rfl
  | cons p ps ih =>
    cases p with
    | nil => exact ih
    | cons c p =>
      have hkeep : (!(c :: p).isEmpty) = true := rfl
      rw [List.map_cons, List.filter_cons, ih, List.filter_cons, if_pos hkeep, List.map_cons,
        List.filter_cons]

/-! ### Breaks -/

/-- A blank text with a line end in it. -/
structure IsBreak (j : List Char) : Prop where
  allBlank : AllBlank j
  newline_mem : '\n' ∈ j

/-- A break is told by its characters. -/
instance instDecidableIsBreak (j : List Char) : Decidable (IsBreak j) :=
  decidable_of_iff (AllBlank j ∧ '\n' ∈ j) ⟨fun h => ⟨h.1, h.2⟩, fun h => ⟨h.1, h.2⟩⟩

example : IsBreak "\n".toList ∧ IsBreak "\r\n".toList ∧ IsBreak "\n \t\n".toList := by decide

/-- **A break parts the lines of a text.** -/
theorem lines_append_break {j : List Char} (hj : IsBreak j) (as bs : List Char) :
    lines (as ++ j ++ bs) = lines as ++ lines bs := by
  obtain ⟨pre, post, rfl⟩ := List.append_of_mem hj.newline_mem
  have hpre : AllBlank pre := fun c hc => hj.allBlank c (List.mem_append_left _ hc)
  have hpost : AllBlank post := fun c hc =>
    hj.allBlank c (List.mem_append_right _ (List.mem_cons_of_mem _ hc))
  have happend : as ++ (pre ++ '\n' :: post) ++ bs = (as ++ pre) ++ '\n' :: (post ++ bs) := by
    simp
  rw [happend, lines_append_newline, lines_append_blank hpre, lines_blank_append hpost]

/-- **Texts with a break between each two have the lines of each of them in turn.** -/
theorem lines_intercalate_break {j : List Char} (hj : IsBreak j) (ls : List (List Char)) :
    lines (j.intercalate ls) = ls.flatMap lines := by
  induction ls with
  | nil => rfl
  | cons l ls ih =>
    cases ls with
    | nil => rw [List.intercalate_singleton, List.flatMap_cons, List.flatMap_nil, List.append_nil]
    | cons m ls =>
      rw [List.intercalate_cons_cons, lines_append_break hj, ih]
      rfl

/-- Lines, and the same lines with wider margins and with blank lines put in. -/
inductive Respaced : List (List Char) → List (List Char) → Prop where
  | nil : Respaced [] []
  | blank {l : List Char} {ls ms : List (List Char)} (hl : AllBlank l) (h : Respaced ls ms) :
    Respaced ls (l :: ms)
  | line (pre l post : List Char) {ls ms : List (List Char)} (hpre : AllBlank pre)
      (hpost : AllBlank post) (h : Respaced ls ms) :
    Respaced (l :: ls) ((pre ++ l ++ post) :: ms)

/-- Lines with other margins are the same lines, and blank ones are none. -/
theorem Respaced.flatMap_lines_eq {ls ms : List (List Char)} (h : Respaced ls ms) :
    ms.flatMap lines = ls.flatMap lines := by
  induction h with
  | nil => rfl
  | blank hl _ ih => rw [List.flatMap_cons, lines_of_allBlank hl, ih, List.nil_append]
  | line pre l post hpre hpost _ ih => rw [List.flatMap_cons, lines_margins hpre hpost, ih, List.flatMap_cons]

/-- **Blank lines and margins do not matter,** nor does the break between the lines. -/
theorem Respaced.lines_eq {ls ms : List (List Char)} {j k : List Char} (h : Respaced ls ms)
    (hj : IsBreak j) (hk : IsBreak k) : lines (j.intercalate ms) = lines (k.intercalate ls) := by
  rw [lines_intercalate_break hj, lines_intercalate_break hk, h.flatMap_lines_eq]

end Text
end Lottery
