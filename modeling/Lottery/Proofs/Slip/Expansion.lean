/-
# What a line with stars expands to

Between the stars stands anything.  A token with one or two ASCII digits is a
base number, filled up to two digits, and any other token is left out (`base?`).
With `k` base numbers there are `p = k (k - 1) / 2` pairs of two different places,
and the line is read as follows (`read_starred`), where `A` is its amount:

| `k` | `A` | not locked | locked |
| --- | --- | --- | --- |
| less than 2 | any | rejected | rejected |
| 2 or more | 0 | rejected | rejected |
| 2 or more | less than `p` | `A` on each pair | rejected |
| 2 or more | `p` or more | `A` on each pair | `A / p` on each pair |

The pairs come in the order of their places, repeated numbers included
(`ListsPairs`).

The line is read by `_parse_pairs_line`.
-/

import Lottery.Proofs.Slip.Joining
import Lottery.Proofs.Slip.PairOrder

namespace Lottery
namespace Slip

variable {gs ts : List (List Char)} {a : List Char}

/-! ### Pairs of places -/

/-- The pairs of two different ones among `k` places, the earlier one first. -/
def places : (k : Nat) → List (Fin k × Fin k)
  | 0 => []
  | k + 1 => (List.finRange k).map (fun j => (0, j.succ)) ++
    (places k).map (Prod.map Fin.succ Fin.succ)

/-- The pairs of places are those whose first is the earlier one. -/
theorem mem_places {k : Nat} (i j : Fin k) : (i, j) ∈ places k ↔ i < j := by
  induction k with
  | zero => exact i.elim0
  | succ k ih =>
    have hzero : ∀ i : Fin k, 0 ≠ i.succ := fun i h => Fin.succ_ne_zero i h.symm
    rw [places, List.mem_append]
    cases i using Fin.cases <;> cases j using Fin.cases <;> simp [ih, hzero, Fin.succ_ne_zero]

/-- They come in order, so none of them comes twice. -/
theorem pairwise_places (k : Nat) : (places k).Pairwise (Prod.Lex (· < ·) (· < ·)) := by
  -- The first place is paired with all others, and then these among themselves.
  induction k with
  | zero => exact .nil
  | succ k ih =>
    rw [places, List.pairwise_append, List.pairwise_map, List.pairwise_map]
    refine ⟨?_, ?_, ?_⟩
    · exact (List.pairwise_lt_finRange k).imp fun h => .right _ (Fin.succ_lt_succ_iff.2 h)
    · refine ih.imp fun {e f} h => ?_
      rw [Prod.lex_def] at h ⊢
      simpa using h
    · intro e he f hf
      obtain ⟨j, _, rfl⟩ := List.mem_map.1 he
      obtain ⟨f, _, rfl⟩ := List.mem_map.1 hf
      exact .left _ _ (Fin.succ_pos _)

/-- **Groups are paired place by place.** -/
theorem pairs_eq_map_places (gs : List (List Char)) :
    pairs gs = (places gs.length).map fun e => gs.get e.1 ++ gs.get e.2 := by
  induction gs with
  | nil => rfl
  | cons g gs ih =>
    have hfirst : gs.map (g ++ ·) = (List.finRange gs.length).map fun j => g ++ gs.get j := by
      rw [show (fun j => g ++ gs.get j) = (g ++ ·) ∘ gs.get from rfl, ← List.map_map,
        List.map_get_finRange]
    show gs.map (g ++ ·) ++ pairs gs = (places (gs.length + 1)).map _
    rw [places, List.map_append, List.map_map, List.map_map, ih, hfirst]
    rfl

/-- Some numbers are the pairs of some groups: one for each two places, the earlier place first, in
the order of the places. -/
def ListsPairs (gs : List (List Char)) (ns : List String) : Prop :=
  ∃ ps : List (Fin gs.length × Fin gs.length), (∀ i j, (i, j) ∈ ps ↔ i < j) ∧
    ps.Pairwise (Prod.Lex (· < ·) (· < ·)) ∧
    ns = ps.map fun e => String.ofList (gs.get e.1 ++ gs.get e.2)

/-- So the pairs of groups are listed by their places. -/
theorem listsPairs_pairNumbers (gs : List (List Char)) : ListsPairs gs (pairNumbers gs) := by
  refine ⟨places gs.length, mem_places, pairwise_places gs.length, ?_⟩
  rw [pairNumbers, pairs_eq_map_places, List.map_map]
  rfl

/-- There are `k (k - 1) / 2` of them. -/
theorem length_pairNumbers (gs : List (List Char)) :
    (pairNumbers gs).length = gs.length * (gs.length - 1) / 2 := by
  have h := two_mul_length_pairs gs
  rw [pairNumbers, List.length_map]
  omega

/-! ### Tokens -/

namespace Dash

/-- The base number of a token: its digits, if there are one or two, filled up to two. -/
def base? (t : List Char) : Option (List Char) :=
  match Text.digitsOf t with
  | [d] => some ['0', d]
  | [d, e] => some [d, e]
  | _ => none

example : base? " 3a".toList = some ['0', '3'] ∧ base? "1b2".toList = some ['1', '2'] ∧
    base? "123".toList = none ∧ base? "x".toList = none := by
  decide

/-- **The base numbers of a line are those of its tokens.** -/
theorem bases_eq_filterMap (ts : List (List Char)) : bases ts = ts.filterMap base? := by
  induction ts with
  | nil => rfl
  | cons t ts ih =>
    rw [List.filterMap_cons, ← ih]
    simp only [bases, numbers, List.map_cons, base?]
    rcases Text.digitsOf t with _ | ⟨d, _ | ⟨e, _ | ⟨f, ds⟩⟩⟩ <;> simp [fill]

/-- Blanks before the digits do not matter. -/
theorem base?_dropWhile (t : List Char) : base? (t.dropWhile Text.isBlank) = base? t := by
  -- Blanks are no digits, so a margin takes none away.
  have hdigits : Text.digitsOf (t.dropWhile Text.isBlank) = Text.digitsOf t := by
    induction t with
    | nil => rfl
    | cons c t ih =>
      by_cases hc : Text.isBlank c = true
      · have hnot : ¬c.isDigit = true := fun h => by
          rw [Text.isBlank_of_isDigit h] at hc
          cases hc
        rw [List.dropWhile_cons_of_pos hc, ih]
        exact (List.filter_cons_of_neg hnot).symm
      · rw [List.dropWhile_cons_of_neg hc]
  rw [base?, hdigits, base?]

/-! ### The line -/

/-- Tokens with stars and an amount have no margin if the first token does not begin with one. -/
theorem flush_starred {t : List Char} (ht : ∀ c ∈ t.head?, Text.isBlank c = false)
    (hts : ts ≠ []) (ha : IsNumeral a) : Text.Flush (starred (t :: ts) a) := by
  obtain ⟨u, us, rfl⟩ := List.exists_cons_of_ne_nil hts
  have hline : starred (t :: u :: us) a =
      t ++ '*' :: (['*'].intercalate (u :: us) ++ ['-']) ++ a := by
    simp [starred, List.intercalate_cons_cons]
  rw [hline]
  -- A first token that is empty leaves the star at the beginning.
  cases t with
  | nil =>
    have hstar : Text.Flush ['*'] :=
      Text.flush_of_not_blank (List.cons_ne_nil _ _) (List.forall_mem_singleton.2 (by decide))
    exact hstar.append ha.flush _
  | cons c t =>
    have hc : Text.Flush [c] :=
      Text.flush_of_not_blank (List.cons_ne_nil _ _) (List.forall_mem_singleton.2 (ht c rfl))
    have happend := hc.append ha.flush (t ++ '*' :: (['*'].intercalate (u :: us) ++ ['-']))
    simpa using happend

/-- A line with stars has the characters of its tokens and of its amount, stars and a dash. -/
theorem not_mem_starred {c : Char} (hts : ∀ t ∈ ts, c ∉ t) (ha : c ∉ a) (hstar : c ≠ '*')
    (hdash : c ≠ '-') : c ∉ starred ts a := by
  intro h
  rcases List.mem_append.1 h with h | h
  · rcases Text.mem_intercalate h with rfl | ⟨t, ht, h⟩
    · exact hstar rfl
    · exact hts t ht h
  · rcases List.mem_cons.1 h with rfl | h
    · exact hdash rfl
    · exact ha h

/-- **A text of tokens with stars is read as one line,** with the same base numbers. -/
theorem exists_read_eq_textOf_starred (hlen : 2 ≤ ts.length)
    (hts : ∀ t ∈ ts, '*' ∉ t ∧ '-' ∉ t ∧ '\n' ∉ t) (ha : IsNumeral a) :
    ∃ us : List (List Char), 2 ≤ us.length ∧ (∀ u ∈ us, '*' ∉ u ∧ '-' ∉ u) ∧
      bases us = bases ts ∧ (Text.Flush (starred us a) ∧ '\n' ∉ starred us a) ∧
      ∀ g, read g (String.ofList (starred ts a)) = read g (textOf [starred us a]) := by
  match ts with
  | [] | [_] => simp at hlen
  | t :: t' :: ts =>
    -- Blanks before the first token are the margin of the line.
    obtain ⟨ht, hrest⟩ := List.forall_mem_cons.1 hts
    have hdrop : ∀ c ∉ t, c ∉ t.dropWhile Text.isBlank := fun c hc h =>
      hc ((List.dropWhile_suffix _).subset h)
    have hus : ∀ u ∈ t.dropWhile Text.isBlank :: t' :: ts, '*' ∉ u ∧ '-' ∉ u ∧ '\n' ∉ u :=
      List.forall_mem_cons.2
        ⟨⟨hdrop _ ht.1, hdrop _ ht.2.1, hdrop _ ht.2.2⟩, hrest⟩
    have hmargin : starred (t :: t' :: ts) a =
        t.takeWhile Text.isBlank ++ starred (t.dropWhile Text.isBlank :: t' :: ts) a := by
      simp only [starred, List.intercalate_cons_cons, ← List.append_assoc,
        List.takeWhile_append_dropWhile]
    refine ⟨t.dropWhile Text.isBlank :: t' :: ts, hlen,
      fun u hu => ⟨(hus u hu).1, (hus u hu).2.1⟩, ?_, ⟨?_, ?_⟩, fun g => ?_⟩
    · rw [bases_eq_filterMap, bases_eq_filterMap]
      simp only [List.filterMap_cons, base?_dropWhile]
    · refine flush_starred (fun c hc => ?_) (List.cons_ne_nil _ _) ha
      have hhead := List.head?_dropWhile_not Text.isBlank t
      rw [hc] at hhead
      exact hhead
    · exact not_mem_starred (fun u hu => (hus u hu).2.2)
        (fun h => Text.ne_of_isDigit (ha.allDigits _ h) (by decide) rfl) (by decide) (by decide)
    · refine read_eq_of_lines_eq g ?_
      rw [textOf, List.intercalate_singleton, String.toList_ofList, String.toList_ofList, hmargin]
      exact Text.lines_blank_append (fun c hc => List.all_eq_true.1 List.all_takeWhile c hc) _

/-- What such a line asks for, by its base numbers and its amount. -/
theorem line_starred_numeral (hts : ∀ t ∈ ts, '*' ∉ t ∧ '-' ∉ t) (hlen : 2 ≤ ts.length)
    (ha : IsNumeral a) (hmax : a.length ≤ Text.maxDigits) (locked : Bool) :
    line locked (starred ts a) =
      if (bases ts).length < 2 then .error .tooFewGroups
      else if Text.toNat a = 0 then .error (.zeroAmount .parle)
      else if locked then
        if Text.toNat a < (pairs (bases ts)).length then .error .shareTooSmall
        else .ok [pairsWager ts (Text.toNat a / (pairs (bases ts)).length, Text.toNat a)]
      else .ok [pairsWager ts (Text.toNat a, Text.toNat a * (pairs (bases ts)).length)] := by
  rw [line_starred hts locked a hlen, pairsStake_eq ha, amount_numeral ha hmax, bind_of_eq_ok rfl]
  split_ifs <;> rfl

end Dash

/-- **A line with stars expands to the pairs of its base numbers.**  It is rejected with fewer than
two of these, or at the amount zero.  Otherwise it asks for a parle on each pair of two different
places, in their order: at the amount each if the slip is not locked; and if it is, for an equal
share of the amount each, unless the amount is less than the number of pairs and the line
rejected. -/
theorem read_starred (hlen : 2 ≤ ts.length) (hts : ∀ t ∈ ts, '*' ∉ t ∧ '-' ∉ t ∧ '\n' ∉ t)
    (ha : IsNumeral a) (hmax : a.length ≤ Text.maxDigits) {gs : List (List Char)} {p : Nat}
    (hgs : gs = ts.filterMap Dash.base?) (hp : p = gs.length * (gs.length - 1) / 2) :
    (gs.length < 2 → ∀ locked, read (.dash locked) (String.ofList (Dash.starred ts a)) =
      ⟨[], [(1, .tooFewGroups)]⟩) ∧
    (2 ≤ gs.length → Text.toNat a = 0 → ∀ locked,
      read (.dash locked) (String.ofList (Dash.starred ts a)) =
        ⟨[], [(1, .zeroAmount .parle)]⟩) ∧
    (2 ≤ gs.length → Text.toNat a ≠ 0 → 1 ≤ p ∧ ∃ ns, ListsPairs gs ns ∧ ns.length = p ∧
      (∃ ds, read (.dash false) (String.ofList (Dash.starred ts a)) =
        ⟨[⟨⟨.parle, ns, Text.toNat a, Text.toNat a * p, some .pairs⟩, 1, ds⟩], []⟩) ∧
      (Text.toNat a < p → read (.dash true) (String.ofList (Dash.starred ts a)) =
        ⟨[], [(1, .shareTooSmall)]⟩) ∧
      (p ≤ Text.toNat a → ∃ ds, read (.dash true) (String.ofList (Dash.starred ts a)) =
        ⟨[⟨⟨.parle, ns, Text.toNat a / p, Text.toNat a, some .pairs⟩, 1, ds⟩], []⟩)) := by
  obtain ⟨us, hlen', hus, hbases, hflush, hread⟩ :=
    Dash.exists_read_eq_textOf_starred hlen hts ha
  -- The line is read by the number of its base numbers, its amount and the lock, in this order.
  have hline := Dash.line_starred_numeral hus hlen' ha hmax
  obtain rfl : Dash.bases us = gs := by rw [hgs, ← Dash.bases_eq_filterMap, hbases]
  have hpairs : (pairs (Dash.bases us)).length = p := by
    rw [hp, ← length_pairNumbers, pairNumbers, List.length_map]
  rw [hpairs] at hline
  simp only [hread]
  refine ⟨fun hk locked => ?_, fun hk hA locked => ?_, fun hk hA => ⟨?_, ?_⟩⟩
  · refine read_rejected hflush ?_
    rw [Grammar.line, hline, if_pos hk]
  · refine read_rejected hflush ?_
    rw [Grammar.line, hline, if_neg (Nat.not_lt.2 hk), if_pos hA]
  · have hmul := Nat.mul_le_mul hk (Nat.sub_le_sub_right hk 1)
    omega
  · refine ⟨_, listsPairs_pairNumbers _, (length_pairNumbers _).trans hp.symm, ?_, ?_, ?_⟩
    · refine exists_read_accepted hflush ?_
      rw [Grammar.line, hline, if_neg (Nat.not_lt.2 hk), if_neg hA, if_neg Bool.false_ne_true]
      rfl
    · intro hshare
      refine read_rejected hflush ?_
      rw [Grammar.line, hline, if_neg (Nat.not_lt.2 hk), if_neg hA, if_pos rfl, if_pos hshare]
    · intro hshare
      refine exists_read_accepted hflush ?_
      rw [Grammar.line, hline, if_neg (Nat.not_lt.2 hk), if_neg hA, if_pos rfl,
        if_neg (Nat.not_lt.2 hshare)]
      rfl

/-- Three base numbers, two of them equal, and a token that has too many digits: ten is shared by
three pairs. -/
theorem read_starred_mixed :
    ListsPairs ["03".toList, "12".toList, "12".toList] ["0312", "0312", "1212"] ∧
    read (.dash true) " 3a*1b2*123*12-10" =
      ⟨[⟨⟨.parle, ["0312", "0312", "1212"], 3, 10, some .pairs⟩, 1, ["0312"]⟩], []⟩ := by
  have hts : ∀ t ∈ [" 3a".toList, "1b2".toList, "123".toList, "12".toList],
      '*' ∉ t ∧ '-' ∉ t ∧ '\n' ∉ t := by
    decide +kernel
  have ha : IsNumeral ['1', '0'] := ⟨by decide, by simp [AllDigits]⟩
  have htext : String.ofList (Dash.starred
      [" 3a".toList, "1b2".toList, "123".toList, "12".toList] ['1', '0']) =
        " 3a*1b2*123*12-10" := by
    decide +kernel
  -- Letters are left out of the tokens, one digit is filled up, and three digits are no base
  -- number.
  have hgs : ["03".toList, "12".toList, "12".toList] =
      [" 3a".toList, "1b2".toList, "123".toList, "12".toList].filterMap Dash.base? := by
    decide +kernel
  have hread : read (.dash true) " 3a*1b2*123*12-10" =
      ⟨[⟨⟨.parle, ["0312", "0312", "1212"], 3, 10, some .pairs⟩, 1, ["0312"]⟩], []⟩ := by
    decide +kernel
  obtain ⟨_, _, h⟩ := read_starred (by decide) hts ha (by decide) hgs rfl
  obtain ⟨_, ns, hns, _, _, _, hlocked⟩ := h (by decide) (by decide)
  obtain ⟨ds, hds⟩ := hlocked (by decide)
  rw [htext] at hds
  cases hread.symm.trans hds
  exact ⟨hns, hread⟩

end Slip
end Lottery
