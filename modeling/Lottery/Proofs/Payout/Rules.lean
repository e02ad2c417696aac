/-
# A bet wins by the rules of the game

The rules speak of a draw as it is written, `ABC DEFG`, with the groups
`g₁ = BC`, `g₂ = DE` and `g₃ = FG`:

| play type | a number wins if it is |
| --- | --- |
| `fijo` | `g₁` |
| `corrido` | `g₂` or `g₃` |
| `centena` | `ABC` |
| `parle` | two groups at different places, in either order |
| `tripleta` | the three groups, in any order |

Bets are decided by lists of winning numbers instead, a parle by its canonical
spelling.  `contains_winners_iff` says that both come to the same for any text
whatever, and `won_iff_wins` that a bet wins exactly if one of its numbers does.

The sets that a number is looked for in are those of `winners_by_type`.
-/

import Lottery.Payout
import Lottery.Proofs.Numbers
import Lottery.Proofs.Spelling
import Mathlib.Data.List.Permutation
import Mathlib.Data.Multiset.Basic
import Mathlib.Data.Sym.Sym2

namespace Lottery

/-! ### The rules -/

namespace Rules

/-- The part of three digits of a written draw. -/
def threeDigits (raw : List Char) : List Char :=
  raw.take 3

/-- The part of four digits of a written draw. -/
def fourDigits (raw : List Char) : List Char :=
  raw.drop 4

/-- The groups of a written draw: the last two of the three digits, and the halves of the
four digits. -/
def group (raw : List Char) : Fin 3 → List Char
  | 0 => (threeDigits raw).drop 1
  | 1 => (fourDigits raw).take 2
  | 2 => (fourDigits raw).drop 2

/-- Does a text win as a number of a play type? -/
def Wins (raw : List Char) : PlayType → List Char → Prop
  | .fijo, n => n = group raw 0
  | .corrido, n => n = group raw 1 ∨ n = group raw 2
  | .centena, n => n = threeDigits raw
  | .parle, n => n.length = 4 ∧
      ∃ i j : Fin 3, i ≠ j ∧ s(n.take 2, n.drop 2) = s(group raw i, group raw j)
  | .tripleta, n => n.length = 6 ∧
      ({n.take 2, (n.drop 2).take 2, n.drop 4} : Multiset (List Char)) =
        {group raw 0, group raw 1, group raw 2}

end Rules

/-! ### The text of a draw -/

/-- A character that is read as a digit is the one that the digit is written with. -/
theorem Digit.toChar_of_ofChar? {c : Char} {d : Digit} (h : Digit.ofChar? c = some d) :
    d.toChar = c := by
  unfold Digit.ofChar? at h
  split at h
  · next hc =>
    obtain rfl := Option.some.inj h
    show Char.ofNat (48 + (c.toNat - 48)) = c
    rw [Nat.add_sub_cancel' hc.1, Char.ofNat_toNat]
  · cases h

namespace Draw

/-- A draw that is read from a text is written like it. -/
theorem text_of_read? {raw : String} {d : Draw} (h : read? raw = some d) : d.text = raw := by
  unfold read? at h
  split at h
  · next heq =>
    split at h
    · next ha hb hc hd he hf hg =>
      obtain rfl := Option.some.inj h
      rw [← String.ofList_toList (s := raw), heq]
      -- Seven characters that are digits are written back digit by digit.
      simp only [text, threeDigits, fourDigits, Group.chars, Digit.toChar_of_ofChar? ha,
        Digit.toChar_of_ofChar? hb, Digit.toChar_of_ofChar? hc, Digit.toChar_of_ofChar? hd,
        Digit.toChar_of_ofChar? he, Digit.toChar_of_ofChar? hf, Digit.toChar_of_ofChar? hg]
      rfl
    · cases h
  · cases h

/-- A draw is written as three digits, a space and four digits. -/
theorem toList_text (d : Draw) : d.text.toList = d.threeDigits ++ ' ' :: d.fourDigits :=
  String.toList_ofList

/-- The rules find the three digits of a draw in its text. -/
theorem rules_threeDigits (d : Draw) : Rules.threeDigits d.text.toList = d.threeDigits := by
  rw [toList_text]
  rfl

/-- The first group is the last two of the three digits, -/
theorem rules_group_zero (d : Draw) : Rules.group d.text.toList 0 = d.first.chars := by
  rw [toList_text]
  rfl

/-- the second one the first two of the four, -/
theorem rules_group_one (d : Draw) : Rules.group d.text.toList 1 = d.second.chars := by
  rw [toList_text]
  rfl

/-- and the third one the last two of the four. -/
theorem rules_group_two (d : Draw) : Rules.group d.text.toList 2 = d.third.chars := by
  rw [toList_text]
  rfl

end Draw

/-! ### Halves and thirds -/

section Parts

variable {n x y z : List Char}

/-- A text of four characters whose halves are two groups, in either order. -/
theorem halves_iff (hx : x.length = 2) (hy : y.length = 2) :
    n.length = 4 ∧ s(n.take 2, n.drop 2) = s(x, y) ↔ n = x ++ y ∨ n = y ++ x := by
  rw [Sym2.eq_iff]
  constructor
  · rintro ⟨_, ⟨h₁, h₂⟩ | ⟨h₁, h₂⟩⟩
    · exact .inl (by rw [← h₁, ← h₂, List.take_append_drop])
    · exact .inr (by rw [← h₁, ← h₂, List.take_append_drop])
  · rintro (rfl | rfl)
    · exact ⟨by rw [List.length_append, hx, hy],
        .inl ⟨List.take_left' hx, List.drop_left' hx⟩⟩
    · exact ⟨by rw [List.length_append, hx, hy],
        .inr ⟨List.take_left' hy, List.drop_left' hy⟩⟩

/-- A number is its first two characters, the next two and the rest. -/
theorem append_thirds (n : List Char) : n.take 2 ++ (n.drop 2).take 2 ++ n.drop 4 = n := by
  have hdrop : n.drop 4 = (n.drop 2).drop 2 := by rw [List.drop_drop]
  rw [hdrop, List.append_assoc, List.take_append_drop, List.take_append_drop]

/-- The thirds of a text of six characters are the texts that it is put together from. -/
theorem eq_append_iff (hx : x.length = 2) (hy : y.length = 2) (hz : z.length = 2) :
    n = x ++ y ++ z ↔ n.length = 6 ∧ [n.take 2, (n.drop 2).take 2, n.drop 4] = [x, y, z] := by
  simp only [List.cons.injEq, and_true]
  constructor
  · rintro rfl
    refine ⟨by simp only [List.length_append, hx, hy, hz], ?_, ?_, ?_⟩
    · rw [List.append_assoc, List.take_left' hx]
    · rw [List.append_assoc, List.drop_left' hx, List.take_left' hy]
    · rw [List.drop_left' (by rw [List.length_append, hx, hy])]
  · rintro ⟨_, h₁, h₂, h₃⟩
    rw [← h₁, ← h₂, ← h₃, append_thirds]

/-- Three texts are three others in any order: the six orders. -/
theorem triple_eq_iff {a b c : List Char} :
    ({a, b, c} : Multiset (List Char)) = {x, y, z} ↔
      [a, b, c] ∈ [[x, y, z], [x, z, y], [y, x, z], [y, z, x], [z, x, y], [z, y, x]] := by
  have hperm : ({a, b, c} : Multiset (List Char)) = {x, y, z} ↔ [a, b, c].Perm [x, y, z] :=
    @Multiset.coe_eq_coe _ [a, b, c] [x, y, z]
  rw [hperm, ← List.mem_permutations']
  simp only [List.permutations', List.permutations'Aux, List.flatMap_cons, List.flatMap_nil,
    List.map_cons, List.map_nil, List.cons_append, List.nil_append, List.append_nil,
    List.mem_cons, List.not_mem_nil]
  tauto

/-- A text of six characters whose thirds are three groups, in any order. -/
theorem thirds_iff (hx : x.length = 2) (hy : y.length = 2) (hz : z.length = 2) :
    n.length = 6 ∧ ({n.take 2, (n.drop 2).take 2, n.drop 4} : Multiset (List Char)) = {x, y, z} ↔
      n ∈ [x ++ y ++ z, x ++ z ++ y, y ++ x ++ z, y ++ z ++ x, z ++ x ++ y, z ++ y ++ x] := by
  rw [triple_eq_iff]
  simp only [List.mem_cons, List.not_mem_nil, or_false, eq_append_iff hx hy hz,
    eq_append_iff hx hz hy, eq_append_iff hy hx hz, eq_append_iff hy hz hx,
    eq_append_iff hz hx hy, eq_append_iff hz hy hx, and_or_left]

end Parts

/-! ### Winning numbers -/

namespace Draw

variable {d : Draw} {n : String}

/-- A group has two digits. -/
theorem length_chars (g : Group) : g.chars.length = 2 :=
  rfl

/-- Sorting and dropping repeats keeps what is there. -/
theorem mem_sortedSet {ss : List String} : n ∈ Text.sortedSet ss ↔ n ∈ ss := by
  rw [Text.sortedSet, Text.mem_sortBy, List.mem_eraseDups]

/-- A number is among some texts if its characters are among theirs. -/
theorem mem_map_ofList {ts : List (List Char)} : n ∈ ts.map String.ofList ↔ n.toList ∈ ts := by
  rw [List.mem_map]
  constructor
  · rintro ⟨t, ht, rfl⟩
    rwa [String.toList_ofList]
  · intro h
    exact ⟨n.toList, h, String.ofList_toList⟩

/-- Every pair of groups at two different places is one of three, or the same the other way
round. -/
theorem exists_pair_iff {p : List Char → List Char → Prop} (hp : ∀ x y, p x y ↔ p y x) :
    (∃ i j : Fin 3, i ≠ j ∧ p (Rules.group d.text.toList i) (Rules.group d.text.toList j)) ↔
      p d.first.chars d.second.chars ∨ p d.first.chars d.third.chars ∨
        p d.second.chars d.third.chars := by
  rw [← rules_group_zero, ← rules_group_one, ← rules_group_two]
  constructor
  · rintro ⟨i, j, hij, h⟩
    -- Six ordered choices of two places, which the symmetry of `p` makes three.
    match i, j with
    | 0, 0 | 1, 1 | 2, 2 => exact absurd rfl hij
    | 0, 1 => exact .inl h
    | 1, 0 => exact .inl ((hp _ _).1 h)
    | 0, 2 => exact .inr (.inl h)
    | 2, 0 => exact .inr (.inl ((hp _ _).1 h))
    | 1, 2 => exact .inr (.inr h)
    | 2, 1 => exact .inr (.inr ((hp _ _).1 h))
  · rintro (h | h | h)
    · exact ⟨0, 1, by decide, h⟩
    · exact ⟨0, 2, by decide, h⟩
    · exact ⟨1, 2, by decide, h⟩

/-- Each group that the rules find has two digits. -/
theorem length_group (d : Draw) (i : Fin 3) : (Rules.group d.text.toList i).length = 2 := by
  match i with
  | 0 => exact congrArg List.length (rules_group_zero d)
  | 1 => exact congrArg List.length (rules_group_one d)
  | 2 => exact congrArg List.length (rules_group_two d)

/-- A number wins as a parle exactly if it is a spelling of a pair of groups. -/
theorem wins_parle_iff : Rules.Wins d.text.toList .parle n.toList ↔
    ∃ p ∈ d.groupPairs, n.toList = p ∨ n.toList = Parle.swap p := by
  -- An unordered pair of groups is one of two spellings.
  have hpairs : Rules.Wins d.text.toList .parle n.toList ↔
      ∃ i j : Fin 3, i ≠ j ∧
        (n.toList = Rules.group d.text.toList i ++ Rules.group d.text.toList j ∨
          n.toList = Rules.group d.text.toList j ++ Rules.group d.text.toList i) := by
    simp only [Rules.Wins, ← halves_iff (length_group d _) (length_group d _)]
    tauto
  rw [hpairs, exists_pair_iff (p := fun x y => n.toList = x ++ y ∨ n.toList = y ++ x)
    fun _ _ => or_comm]
  simp only [groupPairs, List.mem_cons, List.not_mem_nil, or_false, exists_eq_or_imp,
    exists_eq_left, Parle.swap_append (length_chars _) (length_chars _)]

/-- A parle wins exactly if its canonical spelling is among the winners that are kept. -/
theorem canonical_mem_winners_iff :
    Parle.canonical n ∈ d.winners .parle ↔ Rules.Wins d.text.toList .parle n.toList := by
  rw [wins_parle_iff, winners, mem_sortedSet, Parle.canonical, List.mem_map]
  constructor
  · rintro ⟨p, hp, h⟩
    exact ⟨p, hp, Parle.smaller_eq_smaller_iff.1 (String.ofList_injective h).symm⟩
  · rintro ⟨p, hp, h⟩
    exact ⟨p, hp, by rw [Parle.smaller_eq_smaller_iff.2 h]⟩

/-- A tripleta wins exactly if it is among the winners: it is the three groups in some order. -/
theorem mem_winners_tripleta_iff :
    n ∈ d.winners .tripleta ↔ Rules.Wins d.text.toList .tripleta n.toList := by
  rw [winners, mem_sortedSet, mem_map_ofList, Rules.Wins, rules_group_zero, rules_group_one,
    rules_group_two, thirds_iff (length_chars _) (length_chars _) (length_chars _)]
  rfl

/-- **A winning number is one that wins by the rules:** a parle is looked for in its canonical
spelling, any other number as it is. -/
theorem contains_winners_iff (t : PlayType) :
    (d.winners t).contains (if t = .parle then Parle.canonical n else n) = true ↔
      Rules.Wins d.text.toList t n.toList := by
  rw [List.contains_iff_mem]
  -- One play type after the other; only a parle is looked up by another spelling.
  cases t with
  | fijo =>
    rw [if_neg (by decide), Rules.Wins, rules_group_zero, winners, List.mem_singleton,
      Group.text, ← String.toList_inj, String.toList_ofList]
  | corrido =>
    rw [if_neg (by decide), Rules.Wins, rules_group_one, rules_group_two, winners,
      mem_sortedSet, Group.text, Group.text, List.mem_pair, ← String.toList_inj,
      ← String.toList_inj, String.toList_ofList, String.toList_ofList]
  | centena =>
    rw [if_neg (by decide), Rules.Wins, rules_threeDigits, winners, List.mem_singleton,
      ← String.toList_inj, String.toList_ofList]
  | parle =>
    rw [if_pos rfl]
    exact canonical_mem_winners_iff
  | tripleta =>
    rw [if_neg (by decide)]
    exact mem_winners_tripleta_iff

end Draw

/-! ### Bets -/

namespace Bet

/-- A number of a bet wins exactly if it wins by the rules for the type that the bet names. -/
theorem wins_iff {name : String} {numbers amount : Value} {d : Draw} {n : String} :
    Bet.wins ⟨.text name, numbers, amount⟩ d n = true ↔
      ∃ t : PlayType, t.name = name ∧ Rules.Wins d.text.toList t n.toList := by
  unfold Bet.wins Draw.winnersOf
  dsimp only
  -- A name that is no play type has no winners, and no rule either.
  cases h : PlayType.ofName? name with
  | none =>
    constructor
    · intro hc
      cases hc
    · rintro ⟨t, ht, _⟩
      rw [PlayType.ofName?_eq_some_iff.2 ht] at h
      cases h
  | some t =>
    have ht := PlayType.ofName?_eq_some_iff.1 h
    have hparle : Bet.isParle ⟨.text name, numbers, amount⟩ = true ↔ t = .parle := by
      show (name == PlayType.parle.name) = true ↔ _
      rw [beq_iff_eq, ← ht]
      cases t <;> decide
    simp only [hparle]
    rw [Draw.contains_winners_iff]
    constructor
    · intro hw
      exact ⟨t, ht, hw⟩
    · rintro ⟨t', ht', hw⟩
      rw [PlayType.ofName?_eq_some_iff.2 ht', Option.some.injEq] at h
      exact h ▸ hw

/-- A bet is won exactly if one of its numbers wins. -/
theorem won_iff {b : Bet} {d : Draw} {limited : List String} {prices : Price.Table}
    {numbers : List String} {p : Prize} (hn : Numbers.ofValue b.numbers = .ok numbers)
    (hp : b.prize d limited prices = .ok p) :
    p.won = true ↔ ∃ n ∈ numbers, b.wins d n = true := by
  unfold prize at hp
  obtain ⟨found, hf, hp⟩ := bind_eq_ok.1 hp
  obtain rfl := Except.ok.inj (hn.symm.trans hf)
  -- No numbers at all is answered before anything is computed.
  split at hp
  · next he =>
    obtain rfl := Except.ok.inj hp
    rw [List.isEmpty_iff.1 he]
    simp [Prize.none]
  · obtain ⟨rate, _, hp⟩ := bind_eq_ok.1 hp
    obtain ⟨stake, _, hp⟩ := bind_eq_ok.1 hp
    obtain ⟨total, _, hp⟩ := bind_eq_ok.1 hp
    obtain ⟨pay, _, hp⟩ := bind_eq_ok.1 hp
    obtain rfl := Except.ok.inj hp
    rw [Bool.not_eq_true', ← Bool.not_eq_true, List.isEmpty_iff, List.filter_eq_nil_iff]
    simp

/-- **A bet wins by the rules of the game.**  Whenever a bet on a draw has a prize or none, it
has one exactly if a number of it wins, in the written draw, for the play type that the bet
names; a word that names no play type wins nothing. -/
theorem won_iff_wins {raw name numbers : String} {amount : Value} {d : Draw}
    {limited : List String} {prices : Price.Table} {p : Prize} (hd : Draw.read? raw = some d)
    (hp : evaluate (some ⟨.text name, .text numbers, amount⟩) (some d) limited (some prices) =
      .ok p) :
    p.won = true ↔ ∃ t : PlayType, t.name = name ∧
      ∃ n ∈ Numbers.ofText numbers, Rules.Wins raw.toList t n.toList := by
  rw [won_iff (Numbers.ofValue_text numbers) hp, ← Draw.text_of_read? hd]
  simp only [wins_iff]
  constructor
  · rintro ⟨n, hn, t, ht, hw⟩
    exact ⟨t, ht, n, hn, hw⟩
  · rintro ⟨t, ht, n, hn, hw⟩
    exact ⟨n, hn, t, ht, hw⟩

/-- A parle of two groups of a draw in which the first group is drawn twice, written the other
way round among blank and losing numbers. -/
theorem won_iff_wins_repeated_group :
    Draw.read? "134 3459" = some ⟨1, ⟨3, 4⟩, ⟨3, 4⟩, ⟨5, 9⟩⟩ ∧
      evaluate (some ⟨.text "parle", .text " 5934 ,,12, 34 34", .real (.ofInt 2)⟩)
        (some ⟨1, ⟨3, 4⟩, ⟨3, 4⟩, ⟨5, 9⟩⟩) ["5934"] (some .reference) =
          .ok ⟨true, .ofInt 1800⟩ ∧
      ((Prize.mk true (.ofInt 1800)).won = true ↔ ∃ t : PlayType, t.name = "parle" ∧
        ∃ n ∈ Numbers.ofText " 5934 ,,12, 34 34",
          Rules.Wins "134 3459".toList t n.toList) := by
  -- Two groups of the draw are equal, so one of its parles is a group with itself.
  have hd : Draw.read? "134 3459" = some ⟨1, ⟨3, 4⟩, ⟨3, 4⟩, ⟨5, 9⟩⟩ := by decide +kernel
  have hp : evaluate (some ⟨.text "parle", .text " 5934 ,,12, 34 34", .real (.ofInt 2)⟩)
      (some ⟨1, ⟨3, 4⟩, ⟨3, 4⟩, ⟨5, 9⟩⟩) ["5934"] (some .reference) =
        .ok ⟨true, .ofInt 1800⟩ := by decide +kernel
  exact ⟨hd, hp, won_iff_wins hd hp⟩

end Bet
end Lottery
