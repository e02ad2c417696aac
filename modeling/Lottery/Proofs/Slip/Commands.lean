/-
# Commands for three-digit numbers

A segment before the word "con" stands for numbers of three digits (`Expands`):

| segment | numbers |
| --- | --- |
| `312.45-007`, numbers with joints between them | these numbers |
| `cHxp` | `H00`, `H11`, … `H99` |
| `cHxdD` | `HD0`, `HD1`, … `HD9` |
| `cHxtT` | `H0T`, `H1T`, … `H9T` |
| `cHxN.M`, two-digit tails with one joint between each two | `HN`, `HM` |

with the letters in any case, and `x` or `*` after the hundred.  Joints stand between
the numbers of a segment and in a command, but no segment can be taken for one of
another row (`Expands.segment_eq`).  So a line of segments in any order is read
segment by segment (`read_segments`).

The segment is read by `_expand_command`.
-/

import Lottery.Proofs.Slip.ConParts
import Lottery.Proofs.Slip.OneLine

namespace Lottery
namespace Slip

namespace Con

/-- What a command begins with: its letter, the hundred, and "x" or a star. -/
structure IsHead (c h x : Char) : Prop where
  letter : c.toLower = 'c'
  hundred : h.isDigit = true
  star : x.toLower = 'x' ∨ x = '*'

/-- One joint. -/
def IsOneJoint (j : List Char) : Prop :=
  ∃ c, isJoint c = true ∧ j = [c]

/-- A segment and the three-digit numbers that it stands for. -/
inductive Expands : List Char → List (List Char) → Prop where
  | listed {cs : List Char} {ns : List (List Char)} (hns : OfWidth 3 ns)
      (h : Text.Joined (Text.IsRun isJoint) ns cs) : Expands cs ns
  | doubles {c h x k : Char} (head : IsHead c h x) (hk : k.toLower = 'p') :
      Expands [c, h, x, k] ("0123456789".toList.map fun d => [h, d, d])
  | decade {c h x k t : Char} (head : IsHead c h x) (hk : k.toLower = 'd')
      (ht : t.isDigit = true) :
      Expands [c, h, x, k, t] ("0123456789".toList.map fun u => [h, t, u])
  | terminal {c h x k u : Char} (head : IsHead c h x) (hk : k.toLower = 't')
      (hu : u.isDigit = true) :
      Expands [c, h, x, k, u] ("0123456789".toList.map fun t => [h, t, u])
  | tails {c h x : Char} {cs : List Char} {ts : List (List Char)} (head : IsHead c h x)
      (hts : OfWidth 2 ts) (hcs : Text.Joined IsOneJoint ts cs) :
      Expands (c :: h :: x :: cs) (ts.map (h :: ·))

variable {c h x : Char} {cs left a : List Char} {ns ts : List (List Char)}

/-! ### Commands -/

/-- A text with a head is expanded by what follows its head. -/
theorem IsHead.segment_eq (head : IsHead c h x) (hns : expandTail? h cs = some ns) :
    segment (c :: h :: x :: cs) = ns := by
  have hstar : (x.toLower == 'x' || x == '*') = true := by
    simpa using head.star
  have hexpand : expand? (c :: h :: x :: cs) = some ns := by
    rw [expand?, head.letter, head.hundred, hstar, hns]
    rfl
  rw [segment, hexpand, Option.getD_some]

/-- Two-digit tails with one joint between each two are read back. -/
theorem tails?_eq (hts : ∀ t ∈ ts, t.length = 2 ∧ AllDigits t)
    (hcs : Text.Joined IsOneJoint ts cs) : tails? cs = some ts := by
  have hdigits : ∀ {a b : Char}, AllDigits [a, b] → (a.isDigit && b.isDigit) = true := by
    intro a b hab
    rw [hab a (by simp), hab b (by simp), Bool.and_true]
  -- Along the tails, each of which has two digits and one joint behind it.
  induction hcs with
  | single p =>
    match p, hts p List.mem_cons_self with
    | [a, b], hab => rw [tails?, hdigits hab.2, if_pos rfl]
  | @cons p _ ps cs hj h ih =>
    have hrest := ih fun t ht => hts t (List.mem_cons_of_mem p ht)
    obtain ⟨j, hj, rfl⟩ := hj
    match p, hts p List.mem_cons_self with
    | [a, b], hab =>
      show tails? (a :: b :: j :: cs) = _
      rw [tails?, hdigits hab.2, hj, hrest]
      rfl

/-- A digit is no kind of a command, so tails are read as such. -/
theorem expandTail?_of_tails? (h : Char) (htail : tails? cs = some ts) :
    expandTail? h cs = some (ts.map (h :: ·)) := by
  match cs with
  | [] | [_] => cases htail
  | [k, d] =>
    -- Two characters might be a decade or a terminal, but those begin with a letter.
    have hk : k.isDigit = true := by
      rw [tails?, Option.ite_none_right_eq_some, Bool.and_eq_true] at htail
      exact htail.1.1
    have hd : k.toLower ≠ 'd' := toLower_ne_of_isDigit hk (by decide)
    have ht : k.toLower ≠ 't' := toLower_ne_of_isDigit hk (by decide)
    simp [expandTail?, hd, ht, htail]
  | _ :: _ :: _ :: _ =>
    rw [expandTail?, htail]
    · rfl
    all_goals simp

/-! ### Segments -/

/-- **Each segment is read as the numbers that it stands for.** -/
theorem Expands.segment_eq (hs : Expands cs ns) : segment cs = ns := by
  cases hs with
  | listed hns h =>
    -- Without a letter "c" a segment is no command.
    have hno : ∀ c ∈ cs, c.toLower ≠ 'c' := by
      intro c hc
      rcases h.mem hc with ⟨j, hj, hc⟩ | ⟨n, hn, hc⟩
      · exact toLower_ne (hj.forall_mem c hc) (by decide) (by decide)
      · exact toLower_ne_of_isDigit (hns.allNumbers n hn c hc) (by decide)
    have hnum := hns.isNumeral (by decide)
    rw [segment_eq_numbers hno, h.words_eq (fun _ hj => hj) fun n hn => ⟨(hnum n hn).ne_nil,
      (hnum n hn).allDigits.all_eq_false fun _ => isJoint_of_isDigit⟩, numbers_numerals hnum]
  | doubles head hk => exact head.segment_eq (by rw [expandTail?, hk]; rfl)
  | decade head hk ht => exact head.segment_eq (by rw [expandTail?, hk, ht]; rfl)
  | terminal head hk hu => exact head.segment_eq (by rw [expandTail?, hk, hu]; rfl)
  | tails head hts hcs =>
    have htail := tails?_eq (fun t ht => ⟨hts.length_eq t ht, hts.allNumbers t ht⟩) hcs
    exact head.segment_eq (expandTail?_of_tails? _ htail)

/-- Ten numbers of three digits, one for each digit, are of one width. -/
theorem ofWidth_digits {f : Char → List Char} (h : ∀ d : Char, d.isDigit = true →
    (f d).length = 3 ∧ AllDigits (f d)) : OfWidth 3 ("0123456789".toList.map f) := by
  have hten : "0123456789".toList = tenDigits := by decide
  rw [hten]
  refine ⟨by simp [tenDigits], fun n hn => ?_, allNumbers_tenDigits fun d hd => (h d hd).2⟩
  obtain ⟨d, hd, rfl⟩ := List.mem_map.1 hn
  exact (h d (isDigit_of_mem_tenDigits hd)).1

/-- **Whatever a segment stands for are numbers of three digits.** -/
theorem Expands.ofWidth (hs : Expands cs ns) : OfWidth 3 ns := by
  -- Each command puts two digits behind the hundred.
  cases hs with
  | listed hns h => exact hns
  | doubles head hk =>
    exact ofWidth_digits fun d hd => ⟨rfl, .cons head.hundred (allDigits_pair hd hd)⟩
  | decade head hk ht =>
    exact ofWidth_digits fun u hu => ⟨rfl, .cons head.hundred (allDigits_pair ht hu)⟩
  | terminal head hk hu =>
    exact ofWidth_digits fun t ht => ⟨rfl, .cons head.hundred (allDigits_pair ht hu)⟩
  | tails head hts hcs =>
    refine ⟨by simpa using hts.ne_nil, ?_, hts.allNumbers.map_cons head.hundred⟩
    intro n hn
    obtain ⟨t, ht, rfl⟩ := List.mem_map.1 hn
    rw [List.length_cons, hts.length_eq t ht]

/-! ### The part before the word -/

/-- A digit, a joint or a letter of a command. -/
def IsSegmentChar (d : Char) : Prop :=
  d.isDigit = true ∨ isJoint d = true ∨ d.toLower ∈ ['c', 'x', 'p', 'd', 't']

/-- A segment is not cut at gaps, since it has none. -/
theorem IsSegmentChar.isGap_eq_false {d : Char} (hd : IsSegmentChar d) : isGap d = false := by
  cases hgap : isGap d with
  | false => rfl
  | true =>
    -- Digits, joints and letters: none of them is a gap.
    rcases hd with hd | hd | hd
    · rw [isGap_of_isDigit hd] at hgap
      cases hgap
    · rw [isJoint, Bool.or_eq_true, Bool.or_eq_true, beq_iff_eq, beq_iff_eq, beq_iff_eq] at hd
      rcases hd with (rfl | rfl) | rfl <;> cases hgap
    · simp only [List.mem_cons, List.not_mem_nil, or_false] at hd
      rcases hd with hd | hd | hd | hd | hd <;>
        exact absurd hd (toLower_ne hgap (by decide) (by decide))

/-- Nor is it taken for the word, which has an o. -/
theorem IsSegmentChar.toLower_ne_o {d : Char} (hd : IsSegmentChar d) : d.toLower ≠ 'o' := by
  rcases hd with hd | hd | hd
  · exact toLower_ne_of_isDigit hd (by decide)
  · exact toLower_ne hd (by decide) (by decide)
  · intro ho
    rw [ho] at hd
    exact absurd hd (by decide)

/-- The head of a command is made of such characters, so with its tail the segment is. -/
theorem IsHead.forall_mem (head : IsHead c h x) (hcs : ∀ d ∈ cs, IsSegmentChar d) :
    ∀ d ∈ c :: h :: x :: cs, IsSegmentChar d := by
  have hx : IsSegmentChar x := by
    rcases head.star with hx | rfl
    · exact .inr (.inr (by simp [hx]))
    · exact .inr (.inl (by decide))
  exact List.forall_mem_cons.2 ⟨.inr (.inr (by simp [head.letter])),
    List.forall_mem_cons.2 ⟨.inl head.hundred, List.forall_mem_cons.2 ⟨hx, hcs⟩⟩⟩

/-- All segments are made of such characters. -/
theorem Expands.forall_mem (hs : Expands cs ns) : ∀ d ∈ cs, IsSegmentChar d := by
  have hletter : ∀ {k l : Char}, k.toLower = l → l ∈ ['c', 'x', 'p', 'd', 't'] →
      IsSegmentChar k := fun hk hl => .inr (.inr (hk ▸ hl))
  -- What a segment is made of keeps it apart from gaps and from the word.
  cases hs with
  | listed hns h =>
    intro d hd
    rcases h.mem hd with ⟨j, hj, hd⟩ | ⟨n, hn, hd⟩
    · exact .inr (.inl (hj.forall_mem d hd))
    · exact .inl (hns.allNumbers n hn d hd)
  | doubles head hk =>
    exact head.forall_mem (List.forall_mem_singleton.2 (hletter hk (by decide)))
  | decade head hk ht | terminal head hk ht =>
    exact head.forall_mem (List.forall_mem_cons.2
      ⟨hletter hk (by decide), List.forall_mem_singleton.2 (.inl ht)⟩)
  | tails head hts hcs =>
    refine head.forall_mem fun d hd => ?_
    rcases hcs.mem hd with ⟨_, ⟨j, hj, rfl⟩, hd⟩ | ⟨t, ht, hd⟩
    · rw [List.mem_singleton.1 hd]
      exact .inr (.inl hj)
    · exact .inl (hts.allNumbers t ht d hd)

/-- No segment is empty. -/
theorem Expands.ne_nil (hs : Expands cs ns) : cs ≠ [] := by
  cases hs with
  | listed hns h => exact (h.flush fun n hn => (hns.isNumeral (by decide) n hn).flush).ne_nil
  | doubles | decade | terminal | tails => exact List.cons_ne_nil _ _

/-- **Segments with gaps between each two are read one by one.** -/
theorem opening_segments {segs : List (List Char)} {nss : List (List (List Char))}
    (hsegs : List.Forall₂ Expands segs nss)
    (hleft : Text.Joined (Text.Inline (Text.IsRun isGap)) segs left) :
    Opening 3 nss.flatten left := by
  -- No segment has a gap in it, so the gaps divide the text into just these.
  have hseg : ∀ s ∈ segs, s ≠ [] ∧ ∀ c ∈ s, IsSegmentChar c :=
    ((List.forall₂_and_left _ _).1 (hsegs.imp fun _ _ h => ⟨⟨h.ne_nil, h.forall_mem⟩, h⟩)).1
  have hgap : ∀ s ∈ segs, s ≠ [] ∧ ∀ c ∈ s, isGap c = false := fun s hs =>
    ⟨(hseg s hs).1, fun c hc => ((hseg s hs).2 c hc).isGap_eq_false⟩
  refine ⟨hleft.flush fun s hs => ?_, hleft.newline_not_mem fun s hs hc => ?_, fun c hc => ?_,
    ?_, ?_⟩
  · refine Text.flush_of_not_blank (hgap s hs).1 fun c hc => ?_
    have hc := (hgap s hs).2 c hc
    rw [isGap, Bool.or_assoc, Bool.or_eq_false_iff] at hc
    exact hc.1
  · exact absurd ((hgap s hs).2 _ hc) (by decide)
  · rcases hleft.mem hc with ⟨j, hj, hc⟩ | ⟨s, hs, hc⟩
    · exact toLower_ne (hj.1.forall_mem c hc) (by decide) (by decide)
    · exact ((hseg s hs).2 c hc).toLower_ne_o
  · have hmap : segs.map segment = nss := by
      rw [← List.forall₂_eq_eq_eq, List.forall₂_map_left_iff]
      exact hsegs.imp fun _ _ h => h.segment_eq
    rw [leftNumbers, hleft.words_eq (fun _ hj => hj.1) hgap, List.flatMap_def, hmap]
  · have hnss : ∀ ns ∈ nss, OfWidth 3 ns :=
      ((List.forall₂_and_left _ _).1 (hsegs.flip.imp fun _ _ h => ⟨Expands.ofWidth h, h⟩)).1
    refine OfWidth.flatten ?_ hnss
    rintro rfl
    exact hleft.ne_nil (List.forall₂_nil_right_iff.1 hsegs)

end Con

/-- **Segments are expanded one by one, in their order.**  The line asks for a `centena` on the
numbers of its segments at its amount, and is rejected at the amount zero. -/
theorem read_segments {segs : List (List Char)} {nss : List (List (List Char))}
    {left a : List Char} (hsegs : List.Forall₂ Con.Expands segs nss)
    (hleft : Text.Joined (Text.Inline (Text.IsRun Con.isGap)) segs left) (ha : IsNumeral a)
    (hmax : a.length ≤ Text.maxDigits) :
    (Text.toNat a ≠ 0 → ∃ ds, read .con (String.ofList (Con.lineOf left a)) =
      ⟨[⟨⟨.centena, nss.flatten.map String.ofList, Text.toNat a,
        Text.toNat a * nss.flatten.length, none⟩, 1, ds⟩], []⟩) ∧
    (Text.toNat a = 0 → read .con (String.ofList (Con.lineOf left a)) =
      ⟨[], [(1, .plainAmountRequired .centena)]⟩) := by
  have hopening := Con.opening_segments hsegs hleft
  have htokens : Con.Tokens [a] a := ⟨List.forall_mem_singleton.2 ⟨ha.ne_nil,
    ha.allDigits.all_eq_false fun _ => Text.isBlank_of_isDigit⟩, .single a⟩
  -- An amount without letters is one for the plain slot.
  have hwrites : Con.Writes a (.plain, Text.toNat a) := by
    have h : Con.Writes (a ++ []) (.plain, Text.toNat a) := .mk ha hmax rfl
    rwa [List.append_nil] at h
  have hflush := hopening.flush_lineOf htokens.flush
  have hline := hopening.line_eq_of_writes htokens (.cons hwrites .nil)
  constructor
  · intro hne
    refine (asksFor_read hflush ?_).exists_eq
    rw [Grammar.line, hline, ← List.length_map String.ofList]
    exact if_neg hne
  · intro hzero
    refine read_eq_of_line_eq_error hflush ?_
    rw [Grammar.line, hline]
    exact if_pos hzero

/-- A list, a command for the numbers that end in four, and one for two tails. -/
theorem read_segments_mixed :
    List.Forall₂ Con.Expands ["312.045".toList, "c3*T4".toList, "C0x12-34".toList]
      [["312".toList, "045".toList], "0123456789".toList.map fun t => ['3', t, '4'],
        ["012".toList, "034".toList]] ∧
    (∃ ds, read .con "312.045\t c3*T4,C0x12-34 con 07" =
      ⟨[⟨⟨.centena, ["312", "045", "304", "314", "324", "334", "344", "354", "364", "374", "384",
        "394", "012", "034"], 7, 98, none⟩, 1, ds⟩], []⟩) ∧
    read .con "312.045\t c3*T4,C0x12-34 con 00" = ⟨[], [(1, .plainAmountRequired .centena)]⟩ := by
  -- Numbers with a joint, a terminal in mixed case, and a list of tails.
  have hlisted : Con.Expands "312.045".toList ["312".toList, "045".toList] :=
    .listed (by decide) (.cons ['3', '1', '2'] (j := ['.']) (by decide) (.single ['0', '4', '5']))
  have hterminal : Con.Expands "c3*T4".toList ("0123456789".toList.map fun t => ['3', t, '4']) :=
    .terminal ⟨by decide, by decide, by decide⟩ (by decide) (by decide)
  have hdash : Con.IsOneJoint ['-'] := ⟨'-', by decide, rfl⟩
  have htails : Con.Expands "C0x12-34".toList ["012".toList, "034".toList] :=
    @Con.Expands.tails 'C' '0' 'x' _ [['1', '2'], ['3', '4']] ⟨by decide, by decide, by decide⟩
      (by decide) (.cons ['1', '2'] hdash (.single ['3', '4']))
  have hsegs := List.Forall₂.cons hlisted (.cons hterminal (.cons htails .nil))
  have hleft : Text.Joined (Text.Inline (Text.IsRun Con.isGap))
      ["312.045".toList, "c3*T4".toList, "C0x12-34".toList]
      "312.045\t c3*T4,C0x12-34".toList := by
    have hjoined : "312.045\t c3*T4,C0x12-34".toList =
        "312.045".toList ++ "\t ".toList ++ ("c3*T4".toList ++ ",".toList ++ "C0x12-34".toList) := by
      decide
    rw [hjoined]
    exact .cons _ ⟨by decide, by decide⟩ (.cons _ ⟨by decide, by decide⟩ (.single _))
  have htext : String.ofList (Con.lineOf "312.045\t c3*T4,C0x12-34".toList "07".toList) =
      "312.045\t c3*T4,C0x12-34 con 07" := by
    decide +kernel
  have hzero : String.ofList (Con.lineOf "312.045\t c3*T4,C0x12-34".toList "00".toList) =
      "312.045\t c3*T4,C0x12-34 con 00" := by
    decide +kernel
  refine ⟨hsegs, ?_, ?_⟩
  · rw [← htext]
    exact (read_segments hsegs hleft (by decide) (by decide)).1 (by decide)
  · rw [← hzero]
    exact (read_segments hsegs hleft (by decide) (by decide)).2 (by decide)

end Slip
end Lottery
