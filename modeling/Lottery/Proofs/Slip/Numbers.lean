/-
# The numbers on a line

Whatever stands on a line, the numbers that are read from it are made of ASCII
digits (`mem_numbers`, `Dash.ofWidth_groups`, `Con.allNumbers_leftNumbers`).
`OfWidth w gs` says what a play type asks of them: there is at least one, and
each has `w` digits.  Numbers with a common width are so (`ofWidth_commonWidth?`),
and the pairs of two or more groups of two digits are so with four
(`OfWidth.pairs`).
-/

import Lottery.Slip.ConLine
import Lottery.Slip.DashLine

namespace Lottery
namespace Slip

/-- ASCII digits and nothing else. -/
def AllDigits (cs : List Char) : Prop :=
  ∀ c ∈ cs, c.isDigit = true

/-- Keeping digits leaves nothing else. -/
theorem allDigits_digitsOf (cs : List Char) : AllDigits (Text.digitsOf cs) :=
  fun _ hc => Text.isDigit_of_mem_digitsOf hc

/-- The empty text has no character that is not a digit. -/
theorem allDigits_nil : AllDigits [] :=
  fun _ h => absurd h List.not_mem_nil

/-- Two texts of digits make one. -/
theorem AllDigits.append {cs ds : List Char} (hc : AllDigits cs) (hd : AllDigits ds) :
    AllDigits (cs ++ ds) := by
  intro c h
  rcases List.mem_append.1 h with h | h
  · exact hc c h
  · exact hd c h

/-- A digit in front of digits. -/
theorem AllDigits.cons {c : Char} {cs : List Char} (hc : c.isDigit = true) (h : AllDigits cs) :
    AllDigits (c :: cs) := by
  intro d hd
  rcases List.mem_cons.1 hd with rfl | hd
  · exact hc
  · exact h d hd

/-- Two digits side by side. -/
theorem allDigits_pair {a b : Char} (ha : a.isDigit = true) (hb : b.isDigit = true) :
    AllDigits [a, b] :=
  .cons ha (.cons hb allDigits_nil)

/-- Texts made of digits. -/
def AllNumbers (ts : List (List Char)) : Prop :=
  ∀ t ∈ ts, AllDigits t

/-- Numbers with a digit in front of each are numbers; even an empty one becomes one. -/
theorem AllNumbers.map_cons {c : Char} (hc : c.isDigit = true) {ts : List (List Char)}
    (h : AllNumbers ts) : AllNumbers (ts.map (c :: ·)) := by
  intro n hn
  obtain ⟨t, ht, rfl⟩ := List.mem_map.1 hn
  exact .cons hc (h t ht)

/-- At least one number, and `w` digits in each. -/
structure OfWidth (w : Nat) (gs : List (List Char)) : Prop where
  ne_nil : gs ≠ []
  length_eq : ∀ g ∈ gs, g.length = w
  allNumbers : AllNumbers gs

/-- Being of one width does not depend on the order. -/
theorem OfWidth.perm {w : Nat} {gs hs : List (List Char)} (h : OfWidth w gs) (hp : gs.Perm hs) :
    OfWidth w hs where
  ne_nil he := h.ne_nil (List.Perm.eq_nil (he ▸ hp))
  length_eq g hg := h.length_eq g (hp.mem_iff.2 hg)
  allNumbers g hg := h.allNumbers g (hp.mem_iff.2 hg)

/-- Lists of numbers of one width make one such list. -/
theorem OfWidth.flatten {w : Nat} {gss : List (List (List Char))} (hne : gss ≠ [])
    (h : ∀ gs ∈ gss, OfWidth w gs) : OfWidth w gss.flatten := by
  obtain ⟨gs, rest, rfl⟩ := List.exists_cons_of_ne_nil hne
  refine ⟨?_, fun g hg => ?_, fun g hg => ?_⟩
  · rw [List.flatten_cons]
    exact List.append_ne_nil_of_left_ne_nil (h gs List.mem_cons_self).ne_nil _
  all_goals obtain ⟨gs, hgs, hg⟩ := List.mem_flatten.1 hg
  · exact (h gs hgs).length_eq g hg
  · exact (h gs hgs).allNumbers g hg

/-! ### Numbers of tokens -/

/-- A number that was found has digits and no other characters. -/
theorem mem_numbers {tokens : List (List Char)} {n : List Char} (h : n ∈ numbers tokens) :
    n ≠ [] ∧ AllDigits n := by
  obtain ⟨hn, hne⟩ := List.mem_filter.1 h
  obtain ⟨t, _, rfl⟩ := List.mem_map.1 hn
  refine ⟨fun he => ?_, allDigits_digitsOf t⟩
  rw [he] at hne
  exact absurd hne (by decide)

/-- So what is found in tokens are numbers. -/
theorem allNumbers_numbers (tokens : List (List Char)) : AllNumbers (numbers tokens) :=
  fun _ hn => (mem_numbers hn).2

/-- Numbers with a common width are numbers of that width. -/
theorem ofWidth_commonWidth? {ns : List (List Char)} {w : Nat} (h : commonWidth? ns = some w)
    (hd : AllNumbers ns) : OfWidth w ns := by
  cases ns with
  | nil => cases h
  | cons n ns =>
    rw [commonWidth?, Option.ite_none_right_eq_some, Option.some.injEq] at h
    obtain ⟨hall, rfl⟩ := h
    refine ⟨List.cons_ne_nil n ns, fun m hm => ?_, hd⟩
    rcases List.mem_cons.1 hm with rfl | hm
    · rfl
    · exact beq_iff_eq.1 (List.all_eq_true.1 hall m hm)

/-! ### Pairs -/

/-- A pair is made of two of the groups. -/
theorem mem_pairs {gs : List (List Char)} {p : List Char} (h : p ∈ pairs gs) :
    ∃ a ∈ gs, ∃ b ∈ gs, p = a ++ b := by
  induction gs with
  | nil => exact absurd h List.not_mem_nil
  | cons g gs ih =>
    rw [pairs_cons] at h
    rcases List.mem_append.1 h with h | h
    · obtain ⟨b, hb, rfl⟩ := List.mem_map.1 h
      exact ⟨g, List.mem_cons_self .., b, List.mem_cons_of_mem _ hb, rfl⟩
    · obtain ⟨a, ha, b, hb, rfl⟩ := ih h
      exact ⟨a, List.mem_cons_of_mem _ ha, b, List.mem_cons_of_mem _ hb, rfl⟩

/-- Two groups make a pair. -/
theorem pairs_ne_nil {gs : List (List Char)} (h : 2 ≤ gs.length) : pairs gs ≠ [] := by
  match gs with
  | [] | [_] => simp at h
  | g :: g' :: gs => simp [pairs]

/-- The pairs of groups of two digits are numbers of four. -/
theorem OfWidth.pairs {gs : List (List Char)} (h : OfWidth 2 gs) (hn : 2 ≤ gs.length) :
    OfWidth 4 (pairs gs) := by
  refine ⟨pairs_ne_nil hn, fun p hp => ?_, fun p hp => ?_⟩ <;>
    obtain ⟨a, ha, b, hb, rfl⟩ := mem_pairs hp
  · rw [List.length_append, h.length_eq a ha, h.length_eq b hb]
  · exact (h.allNumbers a ha).append (h.allNumbers b hb)

/-! ### Groups between stars -/

/-- Filling up a group to two digits puts zeros in front, which are digits. -/
theorem Dash.allDigits_fill {cs : List Char} (h : AllDigits cs) : AllDigits (fill cs) := by
  unfold fill
  split
  · next d => exact .cons (by decide) h
  · exact h

/-- The groups of a line with stars, if there are two. -/
theorem Dash.ofWidth_groups {left : List Char} (h : 2 ≤ (groups left).length) :
    OfWidth 2 (groups left) := by
  refine ⟨fun he => ?_, fun g hg => ?_, fun g hg => ?_⟩
  · rw [he] at h
    simp at h
  · exact beq_iff_eq.1 (List.mem_filter.1 hg).2
  · obtain ⟨n, hn, rfl⟩ := List.mem_map.1 (List.mem_filter.1 hg).1
    exact allDigits_fill (mem_numbers hn).2

/-! ### Commands -/

namespace Con

/-- The ten digits are digits. -/
theorem isDigit_of_mem_tenDigits {c : Char} (h : c ∈ tenDigits) : c.isDigit = true :=
  List.all_eq_true.1 (by decide : tenDigits.all Char.isDigit = true) c h

/-- Ten numbers, one for each digit. -/
theorem allNumbers_tenDigits {f : Char → List Char}
    (h : ∀ d, d.isDigit = true → AllDigits (f d)) : AllNumbers (tenDigits.map f) := by
  intro n hn
  obtain ⟨d, hd, rfl⟩ := List.mem_map.1 hn
  exact h d (isDigit_of_mem_tenDigits hd)

/-- The endings that a tail stands for are numbers. -/
theorem allNumbers_of_tails? {cs : List Char} {ts : List (List Char)}
    (h : tails? cs = some ts) : AllNumbers ts := by
  -- Along the tails; what is refused lists nothing.
  fun_induction tails? cs generalizing ts with
  | case1 a b hd =>
    obtain rfl := Option.some.inj h
    rw [Bool.and_eq_true] at hd
    intro t ht
    obtain rfl := List.mem_singleton.1 ht
    exact allDigits_pair hd.1 hd.2
  | case3 a b joint rest hd ih =>
    obtain ⟨us, hu, rfl⟩ := Option.map_eq_some_iff.1 h
    rw [Bool.and_eq_true, Bool.and_eq_true] at hd
    intro t ht
    rcases List.mem_cons.1 ht with rfl | ht
    · exact allDigits_pair hd.1.1 hd.1.2
    · exact ih hu t ht
  | case2 | case4 | case5 => cases h

/-- What a tail expands to after a hundred are numbers, each with the hundred in front. -/
theorem allNumbers_of_expandTail? {hundred : Char} (hh : hundred.isDigit = true)
    {tail : List Char} {ns : List (List Char)} (h : expandTail? hundred tail = some ns) :
    AllNumbers ns := by
  -- A list of tails is the last resort of two branches.
  have hlist : ∀ {cs : List Char}, ((tails? cs).map fun ts => ts.map (hundred :: ·)) = some ns →
      AllNumbers ns := by
    intro cs hcs
    obtain ⟨ts, ht, rfl⟩ := Option.map_eq_some_iff.1 hcs
    exact (allNumbers_of_tails? ht).map_cons hh
  unfold expandTail? at h
  split at h
  · rw [Option.ite_none_right_eq_some] at h
    obtain rfl := Option.some.inj h.2
    exact allNumbers_tenDigits fun d hd => .cons hh (allDigits_pair hd hd)
  · next kind d =>
    split at h
    · next hk =>
      rw [Bool.and_eq_true] at hk
      obtain rfl := Option.some.inj h
      exact allNumbers_tenDigits fun u hu => .cons hh (allDigits_pair hk.2 hu)
    · split at h
      · next hk =>
        rw [Bool.and_eq_true] at hk
        obtain rfl := Option.some.inj h
        exact allNumbers_tenDigits fun t ht => .cons hh (allDigits_pair ht hk.2)
      · exact hlist h
  · exact hlist h

/-- **Commands expand to numbers.** -/
theorem allNumbers_of_expand? {cs : List Char} {ns : List (List Char)}
    (h : expand? cs = some ns) : AllNumbers ns := by
  unfold expand? at h
  split at h
  · rw [Option.ite_none_right_eq_some, Bool.and_eq_true, Bool.and_eq_true] at h
    exact allNumbers_of_expandTail? h.1.1.2 h.2
  · cases h

/-- The numbers before the word "con" are made of digits. -/
theorem allNumbers_leftNumbers (left : List Char) : AllNumbers (leftNumbers left) := by
  intro n hn
  obtain ⟨cs, _, hn⟩ := List.mem_flatMap.1 hn
  unfold segment at hn
  -- A segment is a command, or its numbers are the digits of its pieces.
  cases he : expand? cs with
  | none =>
    rw [he, Option.getD_none] at hn
    exact (mem_numbers hn).2
  | some ns =>
    rw [he, Option.getD_some] at hn
    exact allNumbers_of_expand? he n hn

end Con
end Slip
end Lottery
