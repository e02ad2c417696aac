/-
# Numbers listed on a line with dashes

Numbers stand on a line with blanks, points and commas between each two, and each
amount stands behind a dash, which may have blanks around it (`Dash.Listed`).
However a line is spaced, it is read by the widths of its numbers and by its
amounts `a` and `b`, of which `b` may be missing and then counts as 0:

| width | amounts | asks for |
| --- | --- | --- |
| 2 | both 0 | nothing, it is rejected |
| 2 | any others | `fijo` at `a` unless `a` is 0, then `corrido` at `b` unless `b` is 0 |
| 3, 4, 6 | `a` is 0 | nothing, it is rejected |
| 3, 4, 6 | any others | `centena`, `parle`, `tripleta` at `a` |
| any other | any | nothing, it is rejected |
| different ones | any | nothing, it is rejected |

and what it asks for is on the numbers as they are listed, in their order and with
repeats (`read_listed`).

The line is read by `_parse_dash_line`, once it was found to hold no star.
-/

import Lottery.Proofs.Slip.Numerals
import Lottery.Proofs.Slip.OneLine
import Lottery.Proofs.Text.Spacing

namespace Lottery
namespace Slip

namespace Dash

/-- Numbers with gaps between each two, and amounts behind dashes. -/
structure Listed (ns : List (List Char)) (left : List Char) (amounts : List (List Char))
    (l : List Char) : Prop where
  isNumeral : ∀ n ∈ ns, IsNumeral n
  gaps : Text.Joined (Text.Inline (Text.IsRun isGap)) ns left
  isNumeral_amounts : ∀ a ∈ amounts, IsNumeral a
  dashes : Text.Joined (Text.Inline (Text.IsSpaced '-')) (left :: amounts) l

/-- A digit is no gap. -/
theorem isGap_of_isDigit {c : Char} (h : c.isDigit = true) : isGap c = false := by
  have hdot : c ≠ '.' := Text.ne_of_isDigit h (by decide)
  have hcomma : c ≠ ',' := Text.ne_of_isDigit h (by decide)
  simp [isGap, Text.isBlank_of_isDigit h, hdot, hcomma]

/-- All blanks are gaps; so are points and commas. -/
theorem isGap_of_isBlank {c : Char} (h : Text.isBlank c = true) : isGap c = true := by
  rw [isGap, h, Bool.true_or, Bool.true_or]

/-- The amount behind the second dash; a missing one counts as 0. -/
def secondAmount : List (List Char) → Except LineError Nat
  | [] => .ok 0
  | b :: _ => amount b

/-- What numbers of a width ask for at two amounts. -/
def wagers (w : Nat) (ns : List String) (a b : Nat) : Except LineError (List Wager) :=
  match w with
  | 2 => twoDigits ns a b
  | 3 => single .centena ns a none
  | 4 => single .parle ns a (some .direct)
  | 6 => single .tripleta ns a none
  | _ => .error .unsupportedWidth

namespace Listed

variable {ns amounts : List (List Char)} {left l : List Char} {w : Nat}

section

variable (h : Listed ns left amounts l)
include h

/-- Before the dash stand gaps and digits, nothing else. -/
theorem mem_left {c : Char} (hc : c ∈ left) : isGap c = true ∨ c.isDigit = true := by
  rcases h.gaps.mem hc with ⟨j, hj, hc⟩ | ⟨n, hn, hc⟩
  · exact .inl (hj.1.forall_mem c hc)
  · exact .inr ((h.isNumeral n hn).allDigits c hc)

/-- Nothing stands on the line but gaps, dashes and digits. -/
theorem mem {c : Char} (hc : c ∈ l) : isGap c = true ∨ c = '-' ∨ c.isDigit = true := by
  rcases h.dashes.mem hc with ⟨j, ⟨⟨pre, post, hpre, hpost, rfl⟩, _⟩, hc⟩ | ⟨p, hp, hc⟩
  · rcases List.mem_append.1 hc with hc | hc
    · exact .inl (isGap_of_isBlank (hpre c hc))
    · rcases List.mem_cons.1 hc with hc | hc
      · exact .inr (.inl hc)
      · exact .inl (isGap_of_isBlank (hpost c hc))
  · rcases List.mem_cons.1 hp with rfl | hp
    · exact (h.mem_left hc).imp_right .inr
    · exact .inr (.inr ((h.isNumeral_amounts p hp).allDigits c hc))

/-- The parts of the line have no margins left. -/
theorem flush_parts : ∀ p ∈ left :: amounts, Text.Flush p :=
  List.forall_mem_cons.2 ⟨h.gaps.flush fun n hn => (h.isNumeral n hn).flush,
    fun a ha => (h.isNumeral_amounts a ha).flush⟩

/-- There is no dash in them, so the line is cut between them only. -/
theorem dash_not_mem_parts : ∀ p ∈ left :: amounts, '-' ∉ p := by
  refine List.forall_mem_cons.2 ⟨fun hc => ?_, fun a ha hc => ?_⟩
  · exact (h.mem_left hc).elim (by decide) (by decide)
  · exact Text.ne_of_isDigit ((h.isNumeral_amounts a ha).allDigits _ hc) (by decide) rfl

/-- The line has no margin and no line end. -/
theorem flush : Text.Flush l ∧ '\n' ∉ l := by
  refine ⟨h.dashes.flush h.flush_parts, h.dashes.newline_not_mem ?_⟩
  refine List.forall_mem_cons.2 ⟨h.gaps.newline_not_mem fun n hn hc => ?_, fun a ha hc => ?_⟩
  · exact Text.ne_of_isDigit ((h.isNumeral n hn).allDigits _ hc) (by decide) rfl
  · exact Text.ne_of_isDigit ((h.isNumeral_amounts a ha).allDigits _ hc) (by decide) rfl

/-- The parts of the line are the numbers and the amounts. -/
theorem parts_eq :
    (((Text.pieces (· == '-') l).map Text.trim).filter fun p => !p.isEmpty) = left :: amounts :=
  h.dashes.parts_eq (by decide) (fun _ hj => hj.1)
    fun p hp => ⟨h.flush_parts p hp, h.dash_not_mem_parts p hp⟩

/-- The numbers are read back. -/
theorem numbers_eq : numbers (Text.words isGap left) = ns := by
  rw [h.gaps.words_eq (fun _ hj => hj.1) fun n hn => ⟨(h.isNumeral n hn).ne_nil,
    (h.isNumeral n hn).allDigits.all_eq_false fun _ => isGap_of_isDigit⟩, numbers_numerals h.isNumeral]

/-- There is a number. -/
theorem isEmpty_eq : ns.isEmpty = false := by
  simpa using h.gaps.ne_nil

/-- Without a star a line is plain, locked or not. -/
theorem line_eq_plainLine (locked : Bool) : line locked l = plainLine l := by
  rw [line, if_neg]
  intro hstar
  rcases h.mem (List.contains_iff_mem.1 hstar) with hc | hc | hc <;> exact absurd hc (by decide)

end

/-- The numbers are of one width if each has that length. -/
theorem ofWidth (h : Listed ns left amounts l) (hw : ∀ n ∈ ns, n.length = w) : OfWidth w ns :=
  ⟨h.gaps.ne_nil, hw, fun n hn => (h.isNumeral n hn).allDigits⟩

variable {a : List Char} {more : List (List Char)}

/-- **Numbers of one width are read as such,** with the amounts behind them. -/
theorem line_eq (h : Listed ns left (a :: more) l) (hw : ∀ n ∈ ns, n.length = w) (locked : Bool) :
    line locked l = (do
      let first ← amount a
      let second ← if w = 2 then secondAmount more else .ok 0
      wagers w (ns.map String.ofList) first second) := by
  rw [h.line_eq_plainLine, plainLine, h.parts_eq]
  dsimp only
  rw [h.numbers_eq, h.isEmpty_eq, (h.ofWidth hw).commonWidth?]
  -- Each supported width has its own branch, and all others share one.
  match w with
  | 2 => cases more <;> rfl
  | 0 | 1 | 3 | 4 | 5 | 6 | _ + 7 => rfl

/-- Numbers of different widths have no common one. -/
theorem line_eq_error_of_ne (h : Listed ns left (a :: more) l) {n m : List Char} (hn : n ∈ ns)
    (hm : m ∈ ns) (hne : n.length ≠ m.length) (locked : Bool) :
    line locked l = .error .mixedWidths := by
  -- A common width would be that of both numbers.
  have hwidth : commonWidth? ns = none := by
    cases hw : commonWidth? ns with
    | none => rfl
    | some w =>
      have hwidth := ofWidth_commonWidth? hw fun n hn => (h.isNumeral n hn).allDigits
      exact absurd ((hwidth.length_eq n hn).trans (hwidth.length_eq m hm).symm) hne
  rw [h.line_eq_plainLine, plainLine, h.parts_eq]
  dsimp only
  rw [h.numbers_eq, h.isEmpty_eq, hwidth]
  rfl

end Listed

/-! ### What is read -/

/-- What a line comes to by the widths of its numbers `ns` and its amounts. -/
structure ReadsBack (ns : List (List Char)) (a b : Nat) (o : Outcome) : Prop where
  /-- Each amount that is not zero asks for two-digit numbers. -/
  straight : (∀ n ∈ ns, n.length = 2) → a ≠ 0 ∨ b ≠ 0 → o.AsksFor
    ((if a = 0 then [] else [⟨.fijo, ns.map String.ofList, a, a * ns.length, none⟩]) ++
      if b = 0 then [] else [⟨.corrido, ns.map String.ofList, b, b * ns.length, none⟩])
  straight_zero : (∀ n ∈ ns, n.length = 2) → a = 0 → b = 0 → o = ⟨[], [(1, .bothZero)]⟩
  /-- The first amount asks for the numbers of three, four or six digits. -/
  single : ∀ e ∈ [(3, PlayType.centena, none), (4, .parle, some Mode.direct), (6, .tripleta, none)],
    (∀ n ∈ ns, n.length = e.1) → a ≠ 0 →
      o.AsksFor [⟨e.2.1, ns.map String.ofList, a, a * ns.length, e.2.2⟩]
  single_zero : ∀ e ∈ [(3, PlayType.centena), (4, .parle), (6, .tripleta)],
    (∀ n ∈ ns, n.length = e.1) → a = 0 → o = ⟨[], [(1, .zeroAmount e.2)]⟩
  unsupported : ∀ w, (∀ n ∈ ns, n.length = w) → w ∉ [2, 3, 4, 6] →
    o = ⟨[], [(1, .unsupportedWidth)]⟩
  mixed : ∀ n ∈ ns, ∀ m ∈ ns, n.length ≠ m.length → o = ⟨[], [(1, .mixedWidths)]⟩

/-- Numbers of two digits have a wager on fijo and one on corrido, each unless its amount is zero.
-/
theorem twoDigits_eq_ok {ns : List String} {a b : Nat} (h : a ≠ 0 ∨ b ≠ 0) :
    twoDigits ns a b = .ok ((if a = 0 then [] else [.staking .fijo ns a none]) ++
      if b = 0 then [] else [.staking .corrido ns b none]) :=
  if_neg fun hzero => h.elim (· hzero.1) (· hzero.2)

/-- The line of numbers of one width, once its amounts are read. -/
theorem Listed.line_eq_wagers {ns : List (List Char)} {left a l : List Char}
    {b? : Option (List Char)} {w : Nat} (h : Listed ns left (a :: b?.toList) l)
    (hmax : ∀ c ∈ a :: b?.toList, c.length ≤ Text.maxDigits) (hw : ∀ n ∈ ns, n.length = w)
    (locked : Bool) :
    line locked l =
      wagers w (ns.map String.ofList) (Text.toNat a) ((b?.map Text.toNat).getD 0) := by
  have hamount : ∀ c ∈ a :: b?.toList, amount c = .ok (Text.toNat c) := fun c hc =>
    amount_numeral (h.isNumeral_amounts c hc) (hmax c hc)
  -- A second amount that is missing counts as zero.
  have hsecond : secondAmount b?.toList = .ok ((b?.map Text.toNat).getD 0) := by
    cases b? with
    | none => rfl
    | some b => exact hamount b (List.mem_cons_of_mem a List.mem_cons_self)
  rw [h.line_eq hw, bind_of_eq_ok (hamount a List.mem_cons_self)]
  by_cases h2 : w = 2
  · rw [if_pos h2, bind_of_eq_ok hsecond]
  · -- The second amount is read for two digits only, and of no account for any others.
    rw [if_neg h2, bind_of_eq_ok rfl]
    match w with
    | 2 => exact absurd rfl h2
    | 0 | 1 | 3 | 4 | 5 | 6 | _ + 7 => rfl

end Dash

/-- **A list of numbers is read back however it is spaced.**  Its widths and the amounts decide
what the line asks for; the numbers that it asks for are those of the list, in their order and
with repeats, and the total is the amount on each of them. -/
theorem read_listed {ns : List (List Char)} {left a l : List Char} (b? : Option (List Char))
    (h : Dash.Listed ns left (a :: b?.toList) l)
    (hmax : ∀ c ∈ a :: b?.toList, c.length ≤ Text.maxDigits) (locked : Bool) :
    Dash.ReadsBack ns (Text.toNat a) ((b?.map Text.toNat).getD 0)
      (read (.dash locked) (String.ofList l)) where
  straight hw hne := by
    refine asksFor_read h.flush ?_
    rw [Grammar.line, h.line_eq_wagers hmax hw, Dash.wagers, Dash.twoDigits_eq_ok hne,
      Wager.staking, Wager.staking, List.length_map]
  straight_zero hw ha hb := by
    refine read_eq_of_line_eq_error h.flush ?_
    rw [Grammar.line, h.line_eq_wagers hmax hw]
    exact if_pos ⟨ha, hb⟩
  single e he hw ha := by
    refine asksFor_read h.flush ?_
    rw [Grammar.line, h.line_eq_wagers hmax hw, ← List.length_map String.ofList]
    simp only [List.mem_cons, List.not_mem_nil, or_false] at he
    rcases he with rfl | rfl | rfl <;> exact if_neg ha
  single_zero e he hw ha := by
    refine read_eq_of_line_eq_error h.flush ?_
    rw [Grammar.line, h.line_eq_wagers hmax hw]
    simp only [List.mem_cons, List.not_mem_nil, or_false] at he
    rcases he with rfl | rfl | rfl <;> exact if_pos ha
  unsupported w hw hne := by
    refine read_eq_of_line_eq_error h.flush ?_
    rw [Grammar.line, h.line_eq_wagers hmax hw]
    simp only [List.mem_cons, List.not_mem_nil, or_false, not_or] at hne
    simp [Dash.wagers, hne]
  mixed n hn m hm hne :=
    read_eq_of_line_eq_error h.flush (h.line_eq_error_of_ne hn hm hne locked)

/-- Three numbers, one of them twice, with other gaps between them and amounts with zeros in
front. -/
theorem read_listed_spaced :
    Dash.Listed ["12".toList, "34".toList, "12".toList] "12, 34\t.12".toList
      ["05".toList, "3".toList] "12, 34\t.12 -  05- 3".toList ∧
    (read (.dash true) "12, 34\t.12 -  05- 3").AsksFor
      [⟨.fijo, ["12", "34", "12"], 5, 15, none⟩, ⟨.corrido, ["12", "34", "12"], 3, 9, none⟩] := by
  -- Numbers with three kinds of gaps, and dashes with and without blanks around them.
  have hlisted : Dash.Listed ["12".toList, "34".toList, "12".toList] "12, 34\t.12".toList
      ["05".toList, "3".toList] "12, 34\t.12 -  05- 3".toList := by
    have hleft : "12, 34\t.12".toList =
        "12".toList ++ ", ".toList ++ ("34".toList ++ "\t.".toList ++ "12".toList) := by
      decide
    have hline : "12, 34\t.12 -  05- 3".toList =
        "12, 34\t.12".toList ++ " -  ".toList ++ ("05".toList ++ "- ".toList ++ "3".toList) := by
      decide
    refine ⟨by decide, ?_, by decide, ?_⟩
    · rw [hleft]
      exact .cons _ ⟨by decide, by decide⟩ (.cons _ ⟨by decide, by decide⟩ (.single _))
    · rw [hline]
      refine .cons _ ⟨⟨[' '], [' ', ' '], by decide, by decide, by decide⟩, by decide⟩
        (.cons _ ⟨⟨[], [' '], by decide, by decide, by decide⟩, by decide⟩ (.single _))
  have hread := (read_listed (some "3".toList) hlisted (by decide) true).straight
    (by decide) (by decide)
  have htext : String.ofList "12, 34\t.12 -  05- 3".toList = "12, 34\t.12 -  05- 3" :=
    String.ofList_toList
  rw [htext] at hread
  exact ⟨hlisted, hread⟩

end Slip
end Lottery
