/-
# The two grammars agree

A bet that both grammars can write has a line in each; on a locked slip the
amount of a line with stars is shared among the pairs, as the one with the
letters "can" is:

| bet | with dashes | with "con" |
| --- | --- | --- |
| `straight` | `12 34-5-3` | `12 34 con 5f 3c` |
| `paired` | `12*34*56-9` | `12 34 56 con 9p` |
| `paired`, locked slip | `12*34*56-9` | `12 34 56 con 9can` |
| `listed` | `123 456-5` | `123 456 con 5` |

Both lines are rejected, or both ask for wagers on the same terms
(`BetLine.alike_line`): so it is with amounts of zero, with zeros in front, with
too many digits, and with a total that does not suffice for its pairs.  Lines
are read one by one, so two slips with the same bets agree as a whole
(`read_agree`).  Only the words of the errors and the mode of a shared parle
differ.

The grammars are those of `parse_text` and `parse_con_text`.
-/

import Lottery.Proofs.Slip.Accounts
import Lottery.Proofs.Slip.WrittenCon
import Lottery.Proofs.Slip.WrittenDash

namespace Lottery

/-- What a wager comes to: play type, numbers, stake and total. -/
def Wager.terms (w : Wager) : PlayType × List String × Nat × Nat :=
  (w.playType, w.numbers, w.each, w.total)

namespace Slip

/-! ### Bets that both grammars can write -/

/-- A bet that both grammars can write: numbers of one width, and amounts in numerals. -/
inductive BetLine where
  /-- `fijo` at the first amount and `corrido` at the second. -/
  | straight (numbers : List (List Char)) (fijo corrido : List Char)
      (numbers_width : OfWidth 2 numbers) (fijo_numeral : IsNumeral fijo)
      (corrido_numeral : IsNumeral corrido)
  /-- All pairs of the groups. -/
  | paired (groups : List (List Char)) (amount : List Char) (groups_width : OfWidth 2 groups)
      (two_le : 2 ≤ groups.length) (amount_numeral : IsNumeral amount)
  /-- The numbers as they stand, of three, four or six digits. -/
  | listed (t : PlayType) (numbers : List (List Char)) (amount : List Char)
      (type_mem : t ∈ [PlayType.centena, .parle, .tripleta])
      (numbers_width : OfWidth t.digits numbers) (amount_numeral : IsNumeral amount)

namespace BetLine

/-- The line of a bet with dashes. -/
def dash : BetLine → List Char
  | straight ns a b _ _ _ => Dash.written ns [a, b]
  | paired ns a _ _ _ => Dash.writtenPairs ns a
  | listed _ ns a _ _ _ => Dash.written ns [a]

/-- The line of a bet with "con". -/
def con (locked : Bool) : BetLine → List Char
  | straight ns a b _ _ _ => Con.written ns [(a, .fijo), (b, .corrido)]
  | paired ns a _ _ _ => Con.written ns [(a, if locked then .locked else .parle)]
  | listed _ ns a _ _ _ => Con.written ns [(a, .plain)]

end BetLine

/-! ### One line -/

/-- What holds of two things holds of all in the list of them. -/
theorem forall_pair {α : Type} {x y : α} {p : α → Prop} (hx : p x) (hy : p y) :
    ∀ z ∈ [x, y], p z := by
  rintro z (_ | ⟨_, _ | ⟨_, h⟩⟩)
  · exact hx
  · exact hy
  · cases h

/-- Both lines are rejected, or both ask for wagers on the same terms. -/
inductive Alike : Except LineError (List Wager) → Except LineError (List Wager) → Prop
  | rejected (e f : LineError) : Alike (.error e) (.error f)
  | accepted {ws vs : List Wager} (h : ws.map Wager.terms = vs.map Wager.terms) :
    Alike (.ok ws) (.ok vs)

section Lines

variable {locked : Bool} {ns : List (List Char)} {a b : List Char}

/-- Numbers of two digits with an amount for each of two slots: the same wagers from either line. -/
theorem alike_straight (hns : OfWidth 2 ns) (ha : IsNumeral a) (hb : IsNumeral b) :
    Alike (Dash.line locked (Dash.written ns [a, b]))
      (Con.line (Con.written ns [(a, .fijo), (b, .corrido)])) := by
  have hes : ∀ e ∈ [(a, Con.Slot.fijo), (b, Con.Slot.corrido)], IsNumeral e.1 :=
    forall_pair ha hb
  rw [Dash.line_twoDigits hns ha hb, Con.line_written hns (by decide) (List.cons_ne_nil _ _) hes]
  simp only [List.foldlM_cons, List.foldlM_nil]
  cases amount a with
  | error e => exact .rejected e e
  | ok x =>
    cases amount b with
    | error e => exact .rejected e e
    | ok y =>
      show Alike (Dash.twoDigits (ns.map String.ofList) x y) (Con.twoDigits ns ⟨0, x, y, 0, 0⟩)
      unfold Dash.twoDigits Con.twoDigits
      -- Both grammars leave out an amount of zero, and reject the line if both are.
      by_cases hx : x = 0 <;> by_cases hy : y = 0 <;> simp only [hx, hy, and_self, and_true,
        and_false, if_true, if_false, List.nil_append, List.append_nil]
      · exact .rejected _ _
      · exact .accepted rfl
      · exact .accepted rfl
      · exact .accepted rfl

/-- The same for pairs, with the lock or without. -/
theorem alike_paired (hns : OfWidth 2 ns) (hlen : 2 ≤ ns.length) (ha : IsNumeral a) :
    Alike (Dash.line locked (Dash.writtenPairs ns a))
      (Con.line (Con.written ns [(a, if locked then .locked else .parle)])) := by
  rw [Dash.line_pairs hns hlen, Dash.pairsStake_numeral ha hlen, Con.line_pairs hns hlen ha,
    Con.pairsStake]
  cases amount a with
  | error e => exact .rejected e e
  | ok x =>
    show Alike (Except.map _ (if x = 0 then _ else _)) (Except.map _ (if x = 0 then _ else _))
    by_cases hx : x = 0
    · rw [if_pos hx, if_pos hx]
      exact .rejected _ _
    rw [if_neg hx, if_neg hx]
    cases locked with
    | false => exact .accepted rfl
    | true =>
      -- The pairs are as many in both, so the total suffices for both or for none.
      show Alike (Except.map _ (if x < _ then _ else _)) (Except.map _ (if x < _ then _ else _))
      by_cases hlt : x < (pairs ns).length
      · rw [if_pos hlt, if_pos hlt]
        exact .rejected _ _
      · rw [if_neg hlt, if_neg hlt]
        exact .accepted rfl

/-- Numbers of another width have one wager in either grammar. -/
theorem alike_single (t : PlayType) (ns : List (List Char)) (x : Nat) (mode : Option Mode) :
    Alike (Dash.single t (ns.map String.ofList) x mode) (Con.single t ns x mode) := by
  unfold Dash.single Con.single
  split
  · exact .rejected _ _
  · exact .accepted rfl

/-- So their lines agree as well. -/
theorem alike_listed {t : PlayType} (ht : t ∈ [PlayType.centena, .parle, .tripleta])
    (hns : OfWidth t.digits ns) (ha : IsNumeral a) :
    Alike (Dash.line locked (Dash.written ns [a])) (Con.line (Con.written ns [(a, .plain)])) := by
  have hes : ∀ e ∈ [(a, Con.Slot.plain)], IsNumeral e.1 :=
    List.forall_mem_singleton.2 ha
  rw [Dash.line_single ht hns ha, Con.line_written hns t.digits_pos (List.cons_ne_nil _ _) hes]
  simp only [List.foldlM_cons, List.foldlM_nil]
  cases amount a with
  | error e => exact .rejected e e
  | ok x =>
    simp only [List.mem_cons, List.not_mem_nil, or_false] at ht
    rcases ht with rfl | rfl | rfl
    · show Alike (Dash.single _ _ x none) (Con.single .centena ns x none)
      exact alike_single _ _ _ _
    · show Alike (Dash.single _ _ x (some .direct))
        (Con.single .parle ns (if x = 0 then 0 else x) (some .direct))
      -- An amount without letters counts before one for parles, and here there is none.
      have hx : (if x = 0 then 0 else x) = x := by
        split <;> omega
      rw [hx]
      exact alike_single _ _ _ _
    · show Alike (Dash.single _ _ x none) (Con.single .tripleta ns x none)
      exact alike_single _ _ _ _

/-- **The two lines of a bet are alike.** -/
theorem BetLine.alike_line (locked : Bool) (bet : BetLine) :
    Alike ((Grammar.dash locked).line bet.dash) (Grammar.con.line (bet.con locked)) := by
  cases bet with
  | straight ns a b hns ha hb => exact alike_straight hns ha hb
  | paired ns a hns hlen ha => exact alike_paired hns hlen ha
  | listed t ns a ht hns ha => exact alike_listed ht hns ha

end Lines

/-! ### Lines of a slip -/

namespace BetLine

/-- The line of a bet with dashes has no margin and no line end. -/
theorem flush_dash (bet : BetLine) : Text.Flush bet.dash ∧ '\n' ∉ bet.dash := by
  cases bet with
  | straight ns a b hns ha hb =>
    have hab := forall_pair ha hb
    exact (Dash.listed_written hns (by decide) hab).flush
  | paired ns a hns hlen ha =>
    exact ⟨Dash.flush_writtenPairs hns ha,
      Dash.not_mem_writtenPairs hns ha (by decide) (by decide) (by decide)⟩
  | listed t ns a ht hns ha =>
    have ha' : ∀ p ∈ [a], IsNumeral p := List.forall_mem_singleton.2 ha
    exact (Dash.listed_written hns t.digits_pos ha').flush

/-- Nor has the line with "con". -/
theorem flush_con (locked : Bool) (bet : BetLine) :
    Text.Flush (bet.con locked) ∧ '\n' ∉ bet.con locked := by
  -- Each form has its numbers in front and a token at its end, so no margin.
  cases bet with
  | straight ns a b hns ha hb =>
    have hes : ∀ e ∈ [(a, Con.Slot.fijo), (b, Con.Slot.corrido)], IsNumeral e.1 :=
      forall_pair ha hb
    exact Con.flush_written hns (by decide) (List.cons_ne_nil _ _) hes
  | paired ns a hns hlen ha =>
    have hes : ∀ e ∈ [(a, if locked then Con.Slot.locked else .parle)], IsNumeral e.1 :=
      List.forall_mem_singleton.2 ha
    exact Con.flush_written hns (by decide) (List.cons_ne_nil _ _) hes
  | listed t ns a ht hns ha =>
    have hes : ∀ e ∈ [(a, Con.Slot.plain)], IsNumeral e.1 := List.forall_mem_singleton.2 ha
    exact Con.flush_written hns t.digits_pos (List.cons_ne_nil _ _) hes

end BetLine

/-- The text that has some lines one below the other. -/
def textOf (ls : List (List Char)) : String :=
  String.ofList (['\n'].intercalate ls)

/-- The lines that are written are the lines that are read. -/
theorem lines_textOf {ls : List (List Char)} (h : ∀ l ∈ ls, Text.Flush l ∧ '\n' ∉ l) :
    Text.lines (textOf ls).toList = ls := by
  rw [textOf, String.toList_ofList, Text.lines_intercalate h]

/-- What an instruction comes to, and the line that asks for it. -/
def Instruction.place (i : Instruction) : (PlayType × List String × Nat × Nat) × Nat :=
  (i.toWager.terms, i.line)

/-- Two outcomes with the same instructions, modes and duplicates aside, with errors on the same
lines and with the same sum. -/
structure Outcome.Agree (o o' : Outcome) : Prop where
  instructions_eq : o.instructions.map Instruction.place = o'.instructions.map Instruction.place
  error_lines_eq : o.errors.map Prod.fst = o'.errors.map Prod.fst
  perLotterySum_eq : o.perLotterySum = o'.perLotterySum

/-- What an instruction is apart from its duplicates comes of its wager and its line. -/
theorem map_place (n : Nat) (ws : List Wager) :
    (ws.map fun w => (⟨w, n, []⟩ : Instruction)).map Instruction.place =
      (ws.map Wager.terms).map fun t => (t, n) := by
  rw [List.map_map, List.map_map]
  rfl

/-- Flagging duplicates changes nothing else. -/
theorem map_place_flag (g : Grammar) (all : List (PlayType × String)) (is : List Instruction) :
    (is.map (flag g all)).map Instruction.place = is.map Instruction.place := by
  rw [List.map_map]
  rfl

/-- Instructions on the same terms have the same sum. -/
theorem perLotterySum_eq_of_map_place {o o' : Outcome}
    (h : o.instructions.map Instruction.place = o'.instructions.map Instruction.place) :
    o.perLotterySum = o'.perLotterySum := by
  have htotal : ∀ is : List Instruction,
      (is.map fun i => i.total) = (is.map Instruction.place).map fun p => p.1.2.2.2 := by
    intro is
    rw [List.map_map]
    rfl
  rw [perLotterySum_eq_sum, perLotterySum_eq_sum, htotal, htotal, h]

/-- Lines that are alike one by one give the same instructions and errors on the same lines. -/
theorem readLines_agree {g g' : Grammar} {α : Type} {f f' : α → List Char}
    (h : ∀ x, Alike (g.line (f x)) (g'.line (f' x))) (n : Nat) (xs : List α) :
    (readLines g n (xs.map f)).instructions.map Instruction.place =
        (readLines g' n (xs.map f')).instructions.map Instruction.place ∧
      (readLines g n (xs.map f)).errors.map Prod.fst =
        (readLines g' n (xs.map f')).errors.map Prod.fst := by
  -- Line by line; the number of the next line is that of both slips.
  induction xs generalizing n with
  | nil => exact ⟨rfl, rfl⟩
  | cons x xs ih =>
    obtain ⟨hi, he⟩ := ih (n + 1)
    rw [List.map_cons, List.map_cons, readLines, readLines]
    have hx := h x
    generalize g.line (f x) = r at hx ⊢
    generalize g'.line (f' x) = r' at hx ⊢
    cases hx with
    | rejected e e' => exact ⟨hi, congrArg (n :: ·) he⟩
    | accepted hws =>
      refine ⟨?_, he⟩
      rw [List.map_append, List.map_append, hi, map_place, map_place, hws]

/-- **The two grammars agree** on every slip of bets that both can write. -/
theorem read_agree (locked : Bool) (bets : List BetLine) :
    (read (.dash locked) (textOf (bets.map BetLine.dash))).Agree
      (read .con (textOf (bets.map (BetLine.con locked)))) := by
  -- Both texts are read back into the lines that they were put together from.
  have hdash : Text.lines (textOf (bets.map BetLine.dash)).toList = bets.map BetLine.dash :=
    lines_textOf (List.forall_mem_map.2 fun bet _ => bet.flush_dash)
  have hcon : Text.lines (textOf (bets.map (BetLine.con locked))).toList =
      bets.map (BetLine.con locked) :=
    lines_textOf (List.forall_mem_map.2 fun bet _ => bet.flush_con locked)
  obtain ⟨hi, he⟩ := readLines_agree (BetLine.alike_line locked) 1 bets
  have hplaces : (read (.dash locked) (textOf (bets.map BetLine.dash))).instructions.map
        Instruction.place =
      (read .con (textOf (bets.map (BetLine.con locked)))).instructions.map
        Instruction.place := by
    rw [read, read, hdash, hcon, map_place_flag, map_place_flag, hi]
  refine ⟨hplaces, ?_, perLotterySum_eq_of_map_place hplaces⟩
  rw [read, read, hdash, hcon]
  exact he

end Slip
end Lottery
