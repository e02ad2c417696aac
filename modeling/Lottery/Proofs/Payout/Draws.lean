/-
# Which texts are draws, and how many numbers win

A text is read as a draw exactly if it is three ASCII digits, one space and four ASCII digits
(`isSome_read?_iff`), and every draw is read from one text only.  How many parles and tripletas
win depends on how many of the three groups are different:

| different groups | parles | tripletas |
| --- | --- | --- |
| 1 | 1 | 1 |
| 2 | 2 | 3 |
| 3 | 3 | 6 |

Each pair of groups leaves out one group, and two pairs are the same parle exactly if they leave
out equal groups (`card_parles`).  A tripleta wins in every order of its groups.

The reader is `parse_result`, and the sets are those of `winners_by_type`.
-/

import Lottery.Proofs.Payout.Rules
import Lottery.Proofs.Sorting
import Mathlib.Data.Finset.Card
import Mathlib.Data.Fintype.Basic

namespace Lottery

/-! ### Texts -/

namespace Digit

/-- A digit is written with a digit. -/
theorem isDigit_toChar (d : Digit) : d.toChar.isDigit = true := by
  revert d; decide

/-- And with each of them. -/
theorem exists_toChar_of_isDigit {c : Char} (h : c.isDigit = true) : ∃ d, toChar d = c := by
  have hc : 48 ≤ c.toNat ∧ c.toNat ≤ 57 := by
    simpa [Char.isDigit, UInt32.le_iff_toNat_le] using h
  refine ⟨⟨c.toNat - 48, by omega⟩, toChar_of_ofChar? (c := c) ?_⟩
  rw [ofChar?, dif_pos ⟨hc.1, by omega⟩]

end Digit

/-- Different groups are written differently. -/
theorem Group.chars_injective : Function.Injective Group.chars := by
  have htoChar : Function.Injective Digit.toChar := fun d e h =>
    Option.some.inj (by rw [← Digit.ofChar?_toChar d, h, Digit.ofChar?_toChar])
  rintro ⟨a, b⟩ ⟨c, d⟩ h
  obtain ⟨hac, hbd⟩ : a.toChar = c.toChar ∧ b.toChar = d.toChar := by
    simpa [Group.chars] using h
  rw [htoChar hac, htoChar hbd]

namespace Draw

variable {d : Draw} {raw : String}

/-- Three ASCII digits, one space and four ASCII digits. -/
def IsWritten (cs : List Char) : Prop :=
  ∃ xs ys, cs = xs ++ ' ' :: ys ∧ xs.length = 3 ∧ ys.length = 4 ∧
    ∀ c ∈ xs ++ ys, c.isDigit = true

/-- A draw is written as the grammar says. -/
theorem isWritten_text (d : Draw) : IsWritten d.text.toList := by
  refine ⟨d.threeDigits, d.fourDigits, d.toList_text, rfl, rfl, ?_⟩
  simp [threeDigits, fourDigits, Group.chars, Digit.isDigit_toChar]

/-- What the grammar allows is the text of a draw. -/
theorem exists_text_of_isWritten {cs : List Char} (h : IsWritten cs) :
    ∃ d : Draw, d.text.toList = cs := by
  obtain ⟨xs, ys, rfl, hxs, hys, hdigits⟩ := h
  -- The two lengths leave seven characters, each of them a digit.
  match xs, ys with
  | [a, b, c], [d, e, f, g] =>
    have hdigit : ∀ x ∈ [a, b, c, d, e, f, g], ∃ n, Digit.toChar n = x := fun x hx =>
      Digit.exists_toChar_of_isDigit (hdigits x hx)
    obtain ⟨a, rfl⟩ := hdigit a (by simp)
    obtain ⟨b, rfl⟩ := hdigit b (by simp)
    obtain ⟨c, rfl⟩ := hdigit c (by simp)
    obtain ⟨d, rfl⟩ := hdigit d (by simp)
    obtain ⟨e, rfl⟩ := hdigit e (by simp)
    obtain ⟨f, rfl⟩ := hdigit f (by simp)
    obtain ⟨g, rfl⟩ := hdigit g (by simp)
    exact ⟨⟨a, ⟨b, c⟩, ⟨d, e⟩, ⟨f, g⟩⟩, toList_text _⟩

/-- **What is read as a draw.** -/
theorem isSome_read?_iff : (read? raw).isSome = true ↔ IsWritten raw.toList := by
  rw [Option.isSome_iff_exists]
  constructor
  · rintro ⟨d, hd⟩
    rw [← text_of_read? hd]
    exact isWritten_text d
  · intro h
    obtain ⟨d, hd⟩ := exists_text_of_isWritten h
    exact ⟨d, by rw [← String.toList_inj.1 hd, read?_text]⟩

/-! ### Pairs and triples -/

section Groups

variable {x y z u v w : Group}

/-- The canonical spelling of two groups. -/
def parleOf (x y : Group) : String :=
  String.ofList (Parle.smaller (x.chars ++ y.chars))

/-- Two groups in a row can be told apart, since each has two digits. -/
theorem chars_append_inj :
    x.chars ++ y.chars = u.chars ++ v.chars ↔ x = u ∧ y = v := by
  constructor
  · intro h
    obtain ⟨hx, hy⟩ := List.append_inj h rfl
    exact ⟨Group.chars_injective hx, Group.chars_injective hy⟩
  · rintro ⟨rfl, rfl⟩
    rfl

/-- Two pairs of groups are one parle exactly if they are the same pair without an order. -/
theorem parleOf_eq_parleOf_iff : parleOf x y = parleOf u v ↔ s(x, y) = s(u, v) := by
  rw [parleOf, parleOf, String.ofList_inj, Parle.smaller_eq_smaller_iff,
    Parle.swap_append (length_chars u) (length_chars v), chars_append_inj, chars_append_inj, Sym2.eq_iff]

/-- A parle in its canonical spelling is spelled so again. -/
theorem canonical_parleOf (x y : Group) : Parle.canonical (parleOf x y) = parleOf x y := by
  have hcanonical : Parle.canonical (String.ofList (x.chars ++ y.chars)) = parleOf x y := by
    rw [Parle.canonical, parleOf, String.toList_ofList]
  rw [← hcanonical, Parle.canonical_canonical]

/-- How many of three are different. -/
theorem card_three {α : Type} [DecidableEq α] (a b c : α) : [a, b, c].toFinset.card =
    if a = b ∧ b = c then 1 else if a = b ∨ b = c ∨ a = c then 2 else 3 := by
  by_cases hab : a = b
  · subst hab
    by_cases hac : a = c <;> simp [hac]
  · by_cases hbc : b = c
    · subst hbc
      simp [hab]
    · by_cases hac : a = c
      · subst hac
        simp [hab, hbc, Finset.card_insert_of_notMem]
      · simp [hab, hbc, hac]

/-- **There are as many parles as there are different groups:** two of them are the same if the
groups that they leave out are. -/
theorem card_parles (x y z : Group) : [parleOf x y, parleOf x z, parleOf y z].toFinset.card =
    [x, y, z].toFinset.card := by
  -- Two parles are the same exactly if the groups in which they differ are.
  have hfirst : parleOf x y = parleOf x z ↔ y = z := by
    rw [parleOf_eq_parleOf_iff, Sym2.congr_right]
  have hsecond : parleOf x z = parleOf y z ↔ x = y := by
    rw [parleOf_eq_parleOf_iff, Sym2.congr_left]
  have hthird : parleOf x y = parleOf y z ↔ x = z := by
    rw [parleOf_eq_parleOf_iff, Sym2.eq_swap, Sym2.congr_right]
  have hall : y = z ∧ x = y ↔ x = y ∧ y = z := and_comm
  have hsome : y = z ∨ x = y ∨ x = z ↔ x = y ∨ y = z ∨ x = z := or_left_comm
  simp only [card_three, hfirst, hsecond, hthird, hall, hsome]

/-- The text of some groups. -/
def join (gs : List Group) : String :=
  String.ofList (gs.flatMap Group.chars)

/-- So can any number of them. -/
theorem join_injective : Function.Injective join := by
  intro gs hs h
  have hchars : gs.flatMap Group.chars = hs.flatMap Group.chars := String.ofList_injective h
  clear h
  -- Every group has two characters, so equal texts are cut at the same places.
  induction gs generalizing hs with
  | nil =>
    cases hs with
    | nil => rfl
    | cons g hs => cases hchars
  | cons g gs ih =>
    cases hs with
    | nil => cases hchars
    | cons k hs =>
      obtain ⟨hgk, hrest⟩ := List.append_inj hchars rfl
      rw [Group.chars_injective hgk, ih hrest]

/-- Three groups in each of their six orders. -/
def orders (x y z : Group) : List (List Group) :=
  [[x, y, z], [x, z, y], [y, x, z], [y, z, x], [z, x, y], [z, y, x]]

/-- **Equal groups collapse orders:** how many there are of three groups. -/
theorem card_orders (x y z : Group) :
    ([x, y, z].toFinset.card, (orders x y z).toFinset.card) ∈ [(1, 1), (2, 3), (3, 6)] := by
  -- By which of the groups are equal: all, two of them, or none.
  by_cases hxy : x = y
  · subst hxy
    by_cases hxz : x = z
    · subst hxz
      simp [orders]
    · have hzx := Ne.symm hxz
      simp [orders, hxz, hzx]
  · have hyx := Ne.symm hxy
    by_cases hyz : y = z
    · subst hyz
      simp [orders, hxy, hyx]
    · have hzy := Ne.symm hyz
      by_cases hxz : x = z
      · subst hxz
        simp [orders, hxy, hyx]
      · have hzx := Ne.symm hxz
        simp [orders, hxy, hyx, hyz, hzy, hxz, hzx]

end Groups

/-! ### Winning numbers -/

/-- How many of the groups of a written draw are different. -/
def groupCount (raw : List Char) : Nat :=
  (Finset.univ.image (Rules.group raw)).card

/-- The text of a draw has as many different groups as the draw. -/
theorem groupCount_text (d : Draw) :
    groupCount d.text.toList = [d.first, d.second, d.third].toFinset.card := by
  have hgroups : Finset.univ.image (Rules.group d.text.toList) =
      [d.first, d.second, d.third].toFinset.image Group.chars := by
    ext cs
    simp [Fin.exists_fin_succ, rules_group_zero, rules_group_one, rules_group_two, @eq_comm _ cs]
  rw [groupCount, hgroups, Finset.card_image_of_injective _ Group.chars_injective]

/-- The winning parles of a draw are those of its three pairs of groups. -/
theorem winners_parle (d : Draw) : d.winners .parle =
    Text.sortedSet [parleOf d.first d.second, parleOf d.first d.third, parleOf d.second d.third] :=
  rfl

/-- The winning tripletas are its groups in all orders. -/
theorem winners_tripleta (d : Draw) :
    d.winners .tripleta = Text.sortedSet ((orders d.first d.second d.third).map join) :=
  rfl

/-- Winning parles and tripletas of a draw with `k` different groups. -/
structure Shaped (d : Draw) (k : Nat) : Prop where
  parle_nodup : (d.winners .parle).Nodup
  parle_length : (d.winners .parle).length = k
  parle_canonical : ∀ n ∈ d.winners .parle, Parle.canonical n = n
  tripleta_nodup : (d.winners .tripleta).Nodup
  tripleta_length : (k, (d.winners .tripleta).length) ∈ [(1, 1), (2, 3), (3, 6)]
  tripleta_width : ∀ n ∈ d.winners .tripleta, n.toList.length = 6
  tripleta_reordered : ∀ n ∈ d.winners .tripleta, ∀ x y z : List Char,
    x.length = 2 → y.length = 2 → z.length = 2 → n.toList = x ++ y ++ z →
      ∀ gs : List (List Char), gs.Perm [x, y, z] → String.ofList gs.flatten ∈ d.winners .tripleta

/-- Winning parles are kept in their canonical spelling. -/
theorem canonical_of_mem_winners {n : String} (h : n ∈ d.winners .parle) :
    Parle.canonical n = n := by
  rw [winners_parle, mem_sortedSet] at h
  simp only [List.mem_cons, List.not_mem_nil, or_false] at h
  rcases h with rfl | rfl | rfl <;> exact canonical_parleOf _ _

/-- **A tripleta wins in every order of its groups.** -/
theorem flatten_mem_winners {n : String} {x y z : List Char} {gs : List (List Char)}
    (h : n ∈ d.winners .tripleta) (hx : x.length = 2) (hy : y.length = 2) (hz : z.length = 2)
    (hn : n.toList = x ++ y ++ z) (hgs : gs.Perm [x, y, z]) :
    String.ofList gs.flatten ∈ d.winners .tripleta := by
  have hwins := (mem_winners_tripleta_iff.1 h).2
  obtain ⟨hlen, hthirds⟩ := (eq_append_iff hx hy hz).1 hn
  have hlengths : ∀ g ∈ gs, g.length = 2 := fun g hg => by
    have hmem := hgs.mem_iff.1 hg
    simp only [List.mem_cons, List.not_mem_nil, or_false] at hmem
    rcases hmem with rfl | rfl | rfl <;> assumption
  match gs, hgs.length_eq with
  | [u, v, w], _ =>
    have hu := hlengths u (by simp)
    have hv := hlengths v (by simp)
    have hw := hlengths w (by simp)
    have hjoined : (String.ofList [u, v, w].flatten).toList = u ++ v ++ w := by simp
    obtain ⟨hlen', hthirds'⟩ := (eq_append_iff hu hv hw).1 hjoined
    -- As a multiset the groups are still those of the draw, and only that is asked for.
    have hthree : ([x, y, z] : Multiset (List Char)) =
        {Rules.group d.text.toList 0, Rules.group d.text.toList 1, Rules.group d.text.toList 2} := by
      rw [← hthirds]
      exact hwins
    refine mem_winners_tripleta_iff.2 ⟨hlen', Eq.trans ?_ hthree⟩
    rw [← Multiset.coe_eq_coe.2 hgs]
    exact congrArg Multiset.ofList hthirds'

/-- **The winners of a draw are as many as its different groups say:** one parle for one group and
three for two or three; one, three and six tripletas. -/
theorem shaped (d : Draw) : d.Shaped (groupCount d.text.toList) where
  parle_nodup := Text.nodup_sortedSet _
  parle_length := by
    rw [winners_parle, Text.length_sortedSet, card_parles, groupCount_text]
  parle_canonical _ := canonical_of_mem_winners
  tripleta_nodup := Text.nodup_sortedSet _
  tripleta_length := by
    -- Orders that spell the same text count once, as joining groups is injective.
    have hset : ((orders d.first d.second d.third).map join).toFinset =
        (orders d.first d.second d.third).toFinset.image join := by
      ext s
      simp
    rw [winners_tripleta, Text.length_sortedSet, hset,
      Finset.card_image_of_injective _ join_injective, groupCount_text]
    exact card_orders _ _ _
  tripleta_width n h := (mem_winners_tripleta_iff.1 h).1
  tripleta_reordered _ h _ _ _ hx hy hz hn _ hgs := flatten_mem_winners h hx hy hz hn hgs

/-- **Draws and their winning numbers.**  A text is read as a draw exactly if it is three digits,
one space and four digits; the draw is then written like the text, and its winning parles and
tripletas are as its different groups have them. -/
theorem read_shaped (raw : String) :
    ((read? raw).isSome = true ↔ IsWritten raw.toList) ∧
      ∀ d, read? raw = some d →
        d.text = raw ∧ read? d.text = some d ∧ d.Shaped (groupCount raw.toList) := by
  refine ⟨isSome_read?_iff, fun d hd => ?_⟩
  have htext := text_of_read? hd
  refine ⟨htext, read?_text d, ?_⟩
  rw [← htext]
  exact d.shaped

/-- A draw whose first group is drawn twice has two winning parles and three winning tripletas. -/
theorem read_shaped_repeated_group :
    IsWritten "134 3459".toList ∧ groupCount "134 3459".toList = 2 ∧
      ∃ d, read? "134 3459" = some d ∧ d.text = "134 3459" ∧ d.Shaped 2 := by
  have hread : read? "134 3459" = some ⟨1, ⟨3, 4⟩, ⟨3, 4⟩, ⟨5, 9⟩⟩ := by decide +kernel
  have hcount : groupCount "134 3459".toList = 2 := by decide +kernel
  obtain ⟨hiff, hshape⟩ := read_shaped "134 3459"
  obtain ⟨htext, _, hshaped⟩ := hshape _ hread
  rw [hcount] at hshaped
  exact ⟨hiff.1 (by rw [hread]; rfl), hcount, _, hread, htext, hshaped⟩

end Draw
end Lottery
