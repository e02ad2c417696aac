/-
# Pieces and margins of a text

`pieces` is `List.splitOnP`, so what is known of the latter holds of it: a list
of texts without the separator, put together with one between each two, has
just these texts as its pieces.  `Joined between ps cs` says that a text is put
together from others with something of a kind between each two; with runs of
separators there (`IsRun`) it has these texts as its words, if none of them is
empty or has a separator in it (`Joined.words_eq`).  Stripping a class of
characters leaves a text alone that has none of them at its ends, and no ASCII
digit is blank.  So lines that are neither blank nor indented are read back from
a text that has one below the other (`lines_intercalate`).
-/

import Lottery.Text.Blank

namespace Lottery
namespace Text

/-- Attaching a character changes the first piece alone. There is a first piece in all lists that
`pieces` gives (`pieces_ne_nil`). -/
theorem attach_eq_modifyHead (c : Char) {ps : List (List Char)} (h : ps ≠ []) :
    attach c ps = ps.modifyHead (c :: ·) := by
  cases ps with
  | nil => exact absurd rfl h
  | cons p ps => rfl

/-- What a character is attached to has a piece afterwards, even if it had none before. -/
theorem attach_ne_nil (c : Char) (ps : List (List Char)) : attach c ps ≠ [] := by
  cases ps <;> exact List.cons_ne_nil _ _

/-- A single piece with a character in front comes of a single piece: attaching makes no new ones.
-/
theorem attach_eq_singleton {c : Char} {ps : List (List Char)} {p : List Char} (hps : ps ≠ [])
    (h : attach c ps = [p]) : ∃ q, ps = [q] ∧ p = c :: q := by
  obtain ⟨q, qs, rfl⟩ := List.exists_cons_of_ne_nil hps
  obtain ⟨rfl, rfl⟩ := List.cons.inj h
  exact ⟨q, rfl, rfl⟩

/-- Cutting a text into pieces is what the library calls splitting, so the lemmas about
`List.splitOnP` hold of `pieces`. -/
theorem pieces_eq_splitOnP (sep : Char → Bool) (cs : List Char) :
    pieces sep cs = cs.splitOnP sep := by
  induction cs with
  | nil => rfl
  | cons c cs ih =>
    rw [pieces, List.splitOnP_cons_eq_if_modifyHead, ← ih,
      attach_eq_modifyHead c (pieces_ne_nil sep cs)]

/-- **Texts without the separator are read back** from what they are put together to. -/
theorem pieces_intercalate {sep : Char} {ps : List (List Char)} (hps : ps ≠ [])
    (h : ∀ p ∈ ps, sep ∉ p) : pieces (· == sep) ([sep].intercalate ps) = ps := by
  rw [pieces_eq_splitOnP, ← List.splitOn_eq_splitOnP, List.splitOn_intercalate sep h hps]

/-- A separator parts the pieces before it from those after it. -/
theorem pieces_append_cons {sep : Char → Bool} {c : Char} (hc : sep c = true)
    (as bs : List Char) : pieces sep (as ++ c :: bs) = pieces sep as ++ pieces sep bs := by
  rw [pieces_eq_splitOnP, pieces_eq_splitOnP, pieces_eq_splitOnP,
    List.splitOnP_append_cons as bs hc]

/-- A text without separators is one piece. -/
theorem pieces_eq_singleton {sep : Char → Bool} {cs : List Char}
    (h : ∀ c ∈ cs, sep c = false) : pieces sep cs = [cs] := by
  rw [pieces_eq_splitOnP, List.splitOnP_eq_singleton h]

/-- The pieces of a text have no other characters than it. -/
theorem mem_of_mem_pieces {sep : Char → Bool} {cs p : List Char} (h : p ∈ pieces sep cs) :
    ∀ c ∈ p, c ∈ cs := by
  induction cs generalizing p with
  | nil =>
    obtain rfl := List.mem_singleton.1 h
    exact fun _ hc => hc
  | cons d cs ih =>
    have htail : ∀ {q}, q ∈ pieces sep cs → ∀ c ∈ q, c ∈ d :: cs := fun hq c hc =>
      List.mem_cons_of_mem d (ih hq c hc)
    rw [pieces] at h
    split at h
    · rcases List.mem_cons.1 h with rfl | h
      · exact fun c hc => absurd hc List.not_mem_nil
      · exact htail h
    -- A character that is no separator belongs to the first piece of the rest.
    · obtain ⟨q, qs, hq⟩ := List.exists_cons_of_ne_nil (pieces_ne_nil sep cs)
      rw [hq] at h htail
      rcases List.mem_cons.1 h with rfl | h
      · intro c hc
        rcases List.mem_cons.1 hc with rfl | hc
        · exact List.mem_cons_self
        · exact htail List.mem_cons_self c hc
      · exact htail (List.mem_cons_of_mem q h)

/-- The characters of a word stand in the text. -/
theorem mem_of_mem_words {sep : Char → Bool} {cs p : List Char} (h : p ∈ words sep cs) :
    ∀ c ∈ p, c ∈ cs :=
  mem_of_mem_pieces (List.mem_filter.1 h).1

/-- A separator parts the words before it from those after it. -/
theorem words_append_cons {sep : Char → Bool} {c : Char} (hc : sep c = true)
    (as bs : List Char) : words sep (as ++ c :: bs) = words sep as ++ words sep bs := by
  rw [words, pieces_append_cons hc, List.filter_append]
  rfl

/-- A text without separators is one word, unless it is empty. -/
theorem words_eq_singleton {sep : Char → Bool} {cs : List Char} (hne : cs ≠ [])
    (h : ∀ c ∈ cs, sep c = false) : words sep cs = [cs] := by
  rw [words, pieces_eq_singleton h]
  simp [hne]

/-- Separators alone make no word. -/
theorem words_of_forall {sep : Char → Bool} {cs : List Char} (h : ∀ c ∈ cs, sep c = true) :
    words sep cs = [] := by
  induction cs with
  | nil => rfl
  | cons c cs ih =>
    rw [← List.nil_append (c :: cs), words_append_cons (h c List.mem_cons_self),
      ih fun d hd => h d (List.mem_cons_of_mem c hd)]
    rfl

/-- Separators before a text make no words. -/
theorem words_run_append {sep : Char → Bool} {j : List Char} (hj : ∀ c ∈ j, sep c = true)
    (cs : List Char) : words sep (j ++ cs) = words sep cs := by
  induction j with
  | nil => rfl
  | cons c j ih =>
    show words sep ([] ++ c :: (j ++ cs)) = _
    rw [words_append_cons (hj c List.mem_cons_self),
      ih fun d hd => hj d (List.mem_cons_of_mem c hd)]
    rfl

/-- Nor do separators behind it. -/
theorem words_append_run {sep : Char → Bool} {j : List Char} (hj : ∀ c ∈ j, sep c = true)
    (cs : List Char) : words sep (cs ++ j) = words sep cs := by
  cases j with
  | nil => rw [List.append_nil]
  | cons c j =>
    rw [words_append_cons (hj c List.mem_cons_self),
      words_of_forall fun d hd => hj d (List.mem_cons_of_mem c hd), List.append_nil]

/-! ### Texts put together -/

/-- A text that is put together from others, with something of a kind between each two. -/
inductive Joined (between : List Char → Prop) : List (List Char) → List Char → Prop where
  | single (p : List Char) : Joined between [p] p
  | cons (p : List Char) {j : List Char} {ps : List (List Char)} {cs : List Char} (hj : between j)
      (h : Joined between ps cs) : Joined between (p :: ps) (p ++ j ++ cs)

/-- At least one separator and nothing else. -/
structure IsRun (sep : Char → Bool) (j : List Char) : Prop where
  ne_nil : j ≠ []
  forall_mem : ∀ c ∈ j, sep c = true

/-- Both parts of being a run are decidable. -/
instance instDecidableIsRun (sep : Char → Bool) (j : List Char) : Decidable (IsRun sep j) :=
  decidable_of_iff (j ≠ [] ∧ j.all sep = true)
    ⟨fun h => ⟨h.1, List.all_eq_true.1 h.2⟩, fun h => ⟨h.1, List.all_eq_true.2 h.2⟩⟩

/-- One separator is a run of them. -/
theorem isRun_singleton {sep : Char → Bool} {s : Char} (hs : sep s = true) : IsRun sep [s] :=
  ⟨List.cons_ne_nil _ _, List.forall_mem_singleton.2 hs⟩

/-- Putting the same separator between the pieces is a way to join them. -/
theorem joined_intercalate {between : List Char → Prop} {j : List Char} (hj : between j)
    {ps : List (List Char)} (hps : ps ≠ []) : Joined between ps (j.intercalate ps) := by
  induction ps with
  | nil => exact absurd rfl hps
  | cons p ps ih =>
    cases ps with
    | nil =>
      rw [List.intercalate_singleton]
      exact .single p
    | cons q ps =>
      rw [List.intercalate_cons_cons]
      exact .cons p hj (ih (List.cons_ne_nil q ps))

namespace Joined

variable {between : List Char → Prop} {ps : List (List Char)} {cs : List Char}

/-- What is joined is at least one piece. -/
theorem ne_nil (h : Joined between ps cs) : ps ≠ [] := by
  cases h <;> exact List.cons_ne_nil _ _

/-- Each character is in one of the texts or between two of them. -/
theorem mem {c : Char} (h : Joined between ps cs) (hc : c ∈ cs) :
    (∃ j, between j ∧ c ∈ j) ∨ ∃ p ∈ ps, c ∈ p := by
  -- A character stands in the first text, behind it in what is between, or in the rest.
  induction h with
  | single p => exact .inr ⟨p, List.mem_cons_self, hc⟩
  | cons p hj h ih =>
    rcases List.mem_append.1 hc with hc | hc
    · rcases List.mem_append.1 hc with hc | hc
      · exact .inr ⟨p, List.mem_cons_self, hc⟩
      · exact .inl ⟨_, hj, hc⟩
    · rcases ih hc with hbetween | ⟨q, hq, hc⟩
      · exact .inl hbetween
      · exact .inr ⟨q, List.mem_cons_of_mem p hq, hc⟩

/-- **Words with runs of separators between them are read back.** -/
theorem words_eq {sep : Char → Bool} (h : Joined between ps cs)
    (hbetween : ∀ j, between j → IsRun sep j)
    (hps : ∀ p ∈ ps, p ≠ [] ∧ ∀ c ∈ p, sep c = false) : words sep cs = ps := by
  -- Text by text; a run of separators behind it makes no word of its own.
  induction h with
  | single p =>
    obtain ⟨hne, hp⟩ := hps p List.mem_cons_self
    exact words_eq_singleton hne hp
  | @cons p j ps cs hj h ih =>
    obtain ⟨hne, hp⟩ := hps p List.mem_cons_self
    have hrest := ih fun q hq => hps q (List.mem_cons_of_mem p hq)
    obtain ⟨hjne, hjall⟩ := hbetween j hj
    obtain ⟨c, j, rfl⟩ := List.exists_cons_of_ne_nil hjne
    rw [List.append_assoc, List.cons_append, words_append_cons (hjall c List.mem_cons_self),
      words_eq_singleton hne hp, words_run_append fun d hd => hjall d (List.mem_cons_of_mem c hd),
      hrest, List.singleton_append]

end Joined

/-- **Words that are put together with a separator between each two are read back.** -/
theorem words_intercalate {sep : Char → Bool} {s : Char} (hs : sep s = true)
    {ps : List (List Char)} (h : ∀ p ∈ ps, p ≠ [] ∧ ∀ c ∈ p, sep c = false) :
    words sep ([s].intercalate ps) = ps := by
  by_cases hps : ps = []
  · rw [hps]
    rfl
  · exact (joined_intercalate (isRun_singleton hs) hps).words_eq (fun _ hj => hj) h

/-- A character of pieces with a character between each two is that character, or stands in a piece.
-/
theorem mem_intercalate {s c : Char} {ps : List (List Char)} (h : c ∈ [s].intercalate ps) :
    c = s ∨ ∃ p ∈ ps, c ∈ p := by
  by_cases hps : ps = []
  · rw [hps] at h
    exact absurd h List.not_mem_nil
  · have hjoined : Joined ([s] = ·) ps ([s].intercalate ps) := joined_intercalate rfl hps
    refine (hjoined.mem h).imp_left ?_
    rintro ⟨j, rfl, hc⟩
    exact List.mem_singleton.1 hc

/-! ### Margins -/

/-- Where no character is of a class, none is left out at the start. -/
theorem dropWhile_eq_self {p : Char → Bool} {cs : List Char} (h : ∀ c ∈ cs, p c = false) :
    cs.dropWhile p = cs := by
  cases cs with
  | nil => rfl
  | cons c cs => rw [List.dropWhile_cons_of_neg (by simp [h c (List.mem_cons_self ..)])]

/-- Where no character is of a class, none is left out at either end. -/
theorem strip_eq_self {p : Char → Bool} {cs : List Char} (h : ∀ c ∈ cs, p c = false) :
    strip p cs = cs := by
  rw [strip, dropWhile_eq_self h, dropWhile_eq_self fun c hc => h c (List.mem_reverse.1 hc),
    List.reverse_reverse]

/-- A text keeps its ends if they are not of the class. -/
theorem strip_eq_self_of_ends {p : Char → Bool} {cs : List Char}
    (hhead : ∀ c ∈ cs.head?, p c = false) (hlast : ∀ c ∈ cs.getLast?, p c = false) :
    strip p cs = cs := by
  have hdrop : ∀ ds : List Char, (∀ c ∈ ds.head?, p c = false) → ds.dropWhile p = ds := by
    intro ds hds
    cases ds with
    | nil => rfl
    | cons d ds => rw [List.dropWhile_cons_of_neg (by simp [hds d rfl])]
  rw [strip, hdrop cs hhead, hdrop cs.reverse (by rwa [List.head?_reverse]), List.reverse_reverse]

/-- A character of the class in front does not matter. -/
theorem strip_cons {p : Char → Bool} {c : Char} (hc : p c = true) (cs : List Char) :
    strip p (c :: cs) = strip p cs := by
  rw [strip, List.dropWhile_cons_of_pos hc]
  rfl

/-- Nor does one at the end. -/
theorem strip_concat {p : Char → Bool} {c : Char} (hc : p c = true) (cs : List Char) :
    strip p (cs ++ [c]) = strip p cs := by
  rw [strip, strip, List.dropWhile_append]
  split
  · next h =>
    rw [List.isEmpty_iff.1 h, List.dropWhile_cons_of_pos hc]
    rfl
  · rw [List.reverse_append, List.reverse_singleton, List.singleton_append,
      List.dropWhile_cons_of_pos hc]

/-- A text that is not empty and has no blank at its ends. -/
structure Flush (cs : List Char) : Prop where
  ne_nil : cs ≠ []
  head : ∀ c ∈ cs.head?, isBlank c = false
  last : ∀ c ∈ cs.getLast?, isBlank c = false

/-- A text that is flush has no margins to be trimmed. -/
theorem Flush.trim {cs : List Char} (h : Flush cs) : trim cs = cs :=
  strip_eq_self_of_ends h.head h.last

/-- A text without blanks is flush, whatever it says. -/
theorem flush_of_not_blank {cs : List Char} (hne : cs ≠ [])
    (h : ∀ c ∈ cs, isBlank c = false) : Flush cs where
  ne_nil := hne
  head c hc := h c (List.mem_of_mem_head? hc)
  last c hc := h c (List.mem_of_mem_getLast? hc)

/-- What stands between two such texts does not matter. -/
theorem Flush.append {as bs : List Char} (ha : Flush as) (hb : Flush bs) (mid : List Char) :
    Flush (as ++ mid ++ bs) := by
  obtain ⟨a, as, rfl⟩ := List.exists_cons_of_ne_nil ha.ne_nil
  refine ⟨by simp, ?_, ?_⟩
  · intro c hc
    exact ha.head c (by simpa using hc)
  · intro c hc
    rw [List.getLast?_append] at hc
    rcases Option.or_eq_some_iff.1 hc with hc | ⟨hnone, _⟩
    · exact hb.last c hc
    · exact absurd (List.getLast?_eq_none_iff.1 hnone) hb.ne_nil

/-- What stands between the texts does not matter. -/
theorem Joined.flush {between : List Char → Prop} {ps : List (List Char)} {cs : List Char}
    (h : Joined between ps cs) (hps : ∀ p ∈ ps, Flush p) : Flush cs := by
  induction h with
  | single p => exact hps p List.mem_cons_self
  | cons p hj h ih =>
    exact (hps p List.mem_cons_self).append (ih fun q hq => hps q (List.mem_cons_of_mem p hq)) _

/-- Flush pieces make a flush text, whatever stands between them: its ends are those of the first
piece and of the last. -/
theorem flush_intercalate (sep : List Char) {ps : List (List Char)} (hps : ps ≠ [])
    (h : ∀ p ∈ ps, Flush p) : Flush (sep.intercalate ps) := by
  have hjoined : Joined (sep = ·) ps (sep.intercalate ps) := joined_intercalate rfl hps
  exact hjoined.flush h

/-- **Lines are read back** from the text that has one below the other, if none of them is blank
or has a margin. -/
theorem lines_intercalate {ls : List (List Char)} (h : ∀ l ∈ ls, Flush l ∧ '\n' ∉ l) :
    lines (['\n'].intercalate ls) = ls := by
  by_cases hls : ls = []
  · subst hls
    rfl
  · have htrim : ls.map trim = ls := by
      rw [List.map_congr_left fun l hl => (h l hl).1.trim, List.map_id']
    rw [lines, pieces_intercalate hls fun l hl => (h l hl).2, htrim, List.filter_eq_self]
    intro l hl
    simpa using (h l hl).1.ne_nil

/-- A digit is no blank. -/
theorem isBlank_of_isDigit {c : Char} (h : c.isDigit = true) : isBlank c = false := by
  have hc : 48 ≤ c.toNat ∧ c.toNat ≤ 57 := by
    simpa [Char.isDigit, UInt32.le_iff_toNat_le] using h
  simp only [isBlank, Bool.or_eq_false_iff, Bool.and_eq_false_iff, decide_eq_false_iff_not,
    beq_eq_false_iff_ne]
  omega

/-- A character that is no digit is another one than any digit. -/
theorem ne_of_isDigit {c d : Char} (hc : c.isDigit = true) (hd : d.isDigit = false) : c ≠ d := by
  rintro rfl
  rw [hc] at hd
  cases hd

/-- A number keeps all its digits when blanks are trimmed. -/
theorem trim_digits {cs : List Char} (h : ∀ c ∈ cs, c.isDigit = true) : trim cs = cs :=
  strip_eq_self fun c hc => isBlank_of_isDigit (h c hc)

end Text
end Lottery
