/-
# The order of the groups that are paired does not matter

A line of groups at one amount asks for all their pairs, in four forms:

| form | line | the amount |
| --- | --- | --- |
| `starred`, not locked | `12*34*56-9` | on each pair |
| `starred`, locked | `12*34*56-9` | shared by the pairs |
| `con`, not locked | `12 34 56 con 9p` | on each pair |
| `con`, locked | `12 34 56 con 9can` | shared by the pairs |

With the groups in another order the pairs come in another order too, some of
them in the other spelling, and a group that stands twice is paired with itself.
Still the line is rejected for the same reason or accepted at the same stake and
total (`PairForm.exists_line_perm`), and what it asks for are the same parles
(`sameParles_pairNumbers`).  So it wins the same, as long as no number is
limited, and it uses up the same (`read_pairs_perm`).

The pairs are made by `_pairs`.
-/

import Lottery.Proofs.Exposure.Parles
import Lottery.Proofs.Numbers
import Lottery.Proofs.Payout.Parles
import Lottery.Proofs.Slip.Agreement
import Lottery.Proofs.Slip.OneLine

namespace Lottery

/-- A wager as a bet, its numbers listed in one of two ways. -/
def Wager.asBet (l : Numbers.Listing) (w : Wager) : Bet :=
  ⟨.text w.playType.name, l.value w.numbers, .int w.each⟩

/-- A play with what it is on taken from a wager: type, numbers and stake. -/
def Play.booking (p : Play) (l : Numbers.Listing) (w : Wager) : Play :=
  { p with playType := .text w.playType.name, numbers := l.value w.numbers, amount := .int w.each }

namespace Slip

variable {g : Grammar} {ns ms : List (List Char)} {a : List Char}

/-! ### Lines of pairs -/

/-- The ways to ask for all pairs of some groups. -/
inductive PairForm where
  /-- With stars, on a slip that is locked or not. -/
  | starred (locked : Bool)
  /-- With "con" and one of the letters "can" and "p". -/
  | con (locked : Bool)

namespace PairForm

/-- The grammar that reads the form. -/
def grammar : PairForm → Grammar
  | starred locked => .dash locked
  | con _ => .con

/-- The line of some groups at an amount. -/
def line : PairForm → List (List Char) → List Char → List Char
  | starred _, ns, a => Dash.writtenPairs ns a
  | con locked, ns, a => Con.written ns [(a, if locked then .locked else .parle)]

/-- The mode of its wager. -/
def mode : PairForm → Mode
  | starred _ => .pairs
  | con locked => if locked then .lockedPairs else .pairs

/-- The wager on the pairs of some groups, with the stake on each and the total. -/
def wager (f : PairForm) (ns : List (List Char)) (x : Nat × Nat) : Wager :=
  ⟨.parle, pairNumbers ns, x.1, x.2, some f.mode⟩

/-- Each of the forms of a line of pairs begins and ends with digits or a letter, and is one line.
-/
theorem flush_line (f : PairForm) (hns : OfWidth 2 ns) (hlen : 2 ≤ ns.length) (ha : IsNumeral a) :
    Text.Flush (f.line ns a) ∧ '\n' ∉ f.line ns a := by
  cases f with
  | starred _ => exact (BetLine.paired ns a hns hlen ha).flush_dash
  | con locked => exact (BetLine.paired ns a hns hlen ha).flush_con locked

/-- **The order of the groups decides about the order of the pairs only:** whether the line is
accepted, the stake and the total are the same. -/
theorem exists_line_perm (f : PairForm) (hns : OfWidth 2 ns) (hlen : 2 ≤ ns.length) (h : ns.Perm ms)
    (ha : IsNumeral a) :
    ∃ r : Except LineError (Nat × Nat),
      f.grammar.line (f.line ns a) = r.map (fun x => [f.wager ns x]) ∧
        f.grammar.line (f.line ms a) = r.map (fun x => [f.wager ms x]) := by
  have hpairs : (pairs ms).length = (pairs ns).length := length_pairs_of_perm h
  have hms : OfWidth 2 ms := hns.perm h
  have hlen' : 2 ≤ ms.length := h.length_eq ▸ hlen
  -- Both forms look at the groups through their number and the number of their pairs.
  cases f with
  | starred locked =>
    refine ⟨_, Dash.line_pairs hns hlen, ?_⟩
    rw [← hpairs, h.length_eq]
    exact Dash.line_pairs hms hlen'
  | con locked =>
    refine ⟨_, Con.line_pairs hns hlen ha, ?_⟩
    rw [← hpairs]
    exact Con.line_pairs hms hlen' ha

end PairForm

/-! ### Slips of one line -/

section Single

variable {l : List Char} (hl : Text.Flush l ∧ '\n' ∉ l)
include hl

/-- A text of one line that is rejected has its error and nothing else. -/
theorem read_rejected {e : LineError} (h : g.line l = .error e) :
    read g (textOf [l]) = ⟨[], [(1, e)]⟩ := by
  rw [textOf, List.intercalate_singleton]
  exact read_eq_of_line_eq_error hl h

/-- One of a line with one wager has one instruction, with some flags. -/
theorem exists_read_accepted {w : Wager} (h : g.line l = .ok [w]) :
    ∃ ds, read g (textOf [l]) = ⟨[⟨w, 1, ds⟩], []⟩ := by
  rw [textOf, List.intercalate_singleton]
  exact (asksFor_read hl h).exists_eq

end Single

/-! ### Wagers that come to the same -/

/-- Two wagers on parles at the same stake and total that win the same in every draw, as long as
no number is limited, and use up the same, or fail with the same fault. -/
structure Interchangeable (w v : Wager) : Prop where
  playType_eq : w.playType = .parle ∧ v.playType = .parle
  each_eq : v.each = w.each
  total_eq : v.total = w.total
  evaluate_eq : ∀ (l : Numbers.Listing) (d : Option Draw) (prices : Option Price.Table),
    Bet.evaluate (some (w.asBet l)) d [] prices = Bet.evaluate (some (v.asBet l)) d [] prices
  sameUsage : ∀ (l : Numbers.Listing) (p : Play),
    Exposure.SameUsage (Exposure.usage [p.booking l w]) (Exposure.usage [p.booking l v])

/-- Pairs are read back from any listing of them. -/
theorem ofValue_pairNumbers (l : Numbers.Listing) (hns : OfWidth 2 ns) (hlen : 2 ≤ ns.length) :
    Numbers.ofValue (l.value (pairNumbers ns)) = .ok (pairNumbers ns) := by
  have hnum : ∀ n ∈ pairNumbers ns, PlayType.parle.IsNumber n :=
    OfWidth.isNumber (t := .parle) (hns.pairs hlen)
  exact l.ofValue_value (fun n hn => (hnum n hn).toList_ne_nil) fun n hn => (hnum n hn).2

/-- **The pairs of the groups in any order come to the same.** -/
theorem PairForm.interchangeable (f : PairForm) (hns : OfWidth 2 ns) (hlen : 2 ≤ ns.length)
    (h : ns.Perm ms) (x : Nat × Nat) :
    Interchangeable (f.wager ns x) (f.wager ms x) where
  playType_eq := ⟨rfl, rfl⟩
  each_eq := rfl
  total_eq := rfl
  evaluate_eq l := Bet.evaluate_eq_of_sameParles rfl rfl rfl (ofValue_pairNumbers l hns hlen)
    (ofValue_pairNumbers l (hns.perm h) (h.length_eq ▸ hlen))
    (sameParles_pairNumbers hns.length_eq h)
  sameUsage l _ := Exposure.usage_of_sameParles rfl rfl rfl rfl (ofValue_pairNumbers l hns hlen)
    (ofValue_pairNumbers l (hns.perm h) (h.length_eq ▸ hlen))
    (sameParles_pairNumbers hns.length_eq h)

/-- **The order of the groups never changes what their pairs win or use up.**  In every form the
two lines are both rejected, for the same reason, or both accepted with wagers that come to the
same. -/
theorem read_pairs_perm (f : PairForm) {ns ms : List (List Char)} {a : List Char}
    (hns : OfWidth 2 ns) (hlen : 2 ≤ ns.length) (h : ns.Perm ms) (ha : IsNumeral a) :
    (∃ e, read f.grammar (textOf [f.line ns a]) = ⟨[], [(1, e)]⟩ ∧
      read f.grammar (textOf [f.line ms a]) = ⟨[], [(1, e)]⟩) ∨
    ∃ i j : Instruction, read f.grammar (textOf [f.line ns a]) = ⟨[i], []⟩ ∧
      read f.grammar (textOf [f.line ms a]) = ⟨[j], []⟩ ∧
      Interchangeable i.toWager j.toWager := by
  have hms : OfWidth 2 ms := hns.perm h
  have hlen' : 2 ≤ ms.length := h.length_eq ▸ hlen
  obtain ⟨r, hn, hm⟩ := f.exists_line_perm hns hlen h ha
  -- One result for both orders: an error, or a stake with a total.
  cases r with
  | error e =>
    exact .inl ⟨e, read_rejected (f.flush_line hns hlen ha) hn,
      read_rejected (f.flush_line hms hlen' ha) hm⟩
  | ok x =>
    obtain ⟨ds, hi⟩ := exists_read_accepted (f.flush_line hns hlen ha) hn
    obtain ⟨ds', hj⟩ := exists_read_accepted (f.flush_line hms hlen' ha) hm
    exact .inr ⟨_, _, hi, hj, f.interchangeable hns hlen h x⟩

/-- A group that stands twice is paired with itself, and with the other group in the other
spelling. -/
theorem read_pairs_perm_repeated :
    OfWidth 2 [['1', '2'], ['1', '2'], ['3', '4']] ∧
    [['1', '2'], ['1', '2'], ['3', '4']].Perm [['3', '4'], ['1', '2'], ['1', '2']] ∧
    IsNumeral ['1', '0'] ∧
    ∃ i j : Instruction, read .con "12 12 34 con 10can" = ⟨[i], []⟩ ∧
      read .con "34 12 12 con 10can" = ⟨[j], []⟩ ∧
      i.numbers = ["1212", "1234", "1234"] ∧ j.numbers = ["3412", "3412", "1212"] ∧
      i.each = 3 ∧ i.total = 10 ∧ Interchangeable i.toWager j.toWager := by
  have hns : OfWidth 2 [['1', '2'], ['1', '2'], ['3', '4']] :=
    ⟨by decide, by decide, by simp [AllNumbers, AllDigits]⟩
  have hperm : [['1', '2'], ['1', '2'], ['3', '4']].Perm [['3', '4'], ['1', '2'], ['1', '2']] := by
    decide
  have ha : IsNumeral ['1', '0'] := ⟨by decide, by simp [AllDigits]⟩
  have h := read_pairs_perm (.con true) hns (by decide) hperm ha
  -- Two equal groups, so that a group is paired with itself in either order.
  have hline : textOf [(PairForm.con true).line [['1', '2'], ['1', '2'], ['3', '4']] ['1', '0']] =
      "12 12 34 con 10can" := by
    decide +kernel
  have hline' : textOf [(PairForm.con true).line [['3', '4'], ['1', '2'], ['1', '2']] ['1', '0']] =
      "34 12 12 con 10can" := by
    decide +kernel
  have hread : read .con "12 12 34 con 10can" =
      ⟨[⟨⟨.parle, ["1212", "1234", "1234"], 3, 10, some .lockedPairs⟩, 1, ["1234"]⟩], []⟩ := by
    decide +kernel
  have hread' : read .con "34 12 12 con 10can" =
      ⟨[⟨⟨.parle, ["3412", "3412", "1212"], 3, 10, some .lockedPairs⟩, 1, ["3412"]⟩], []⟩ := by
    decide +kernel
  rw [hline, hline'] at h
  refine ⟨hns, hperm, ha, ?_⟩
  rcases h with ⟨e, he, _⟩ | ⟨i, j, hi, hj, hij⟩
  · cases hread.symm.trans he
  · cases hread.symm.trans hi
    cases hread'.symm.trans hj
    exact ⟨_, _, hread, hread', rfl, rfl, rfl, rfl, hij⟩

end Slip
end Lottery
