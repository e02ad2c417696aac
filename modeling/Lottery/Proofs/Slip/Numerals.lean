/-
# Numerals on a line

Numerals are ASCII digits, at least one of them.  They are the numbers that are
read from them (`numbers_numerals`), and the amounts that they write if they are not
too long (`amount_numeral`).
-/

import Lottery.Proofs.Slip.Numbers
import Lottery.Proofs.Text.Pieces

namespace Lottery
namespace Slip

/-- ASCII digits, at least one of them. -/
structure IsNumeral (cs : List Char) : Prop where
  ne_nil : cs ≠ []
  allDigits : AllDigits cs

/-- Characters are looked at one by one. -/
instance instDecidableAllDigits (cs : List Char) : Decidable (AllDigits cs) :=
  List.decidableBAll _ cs

/-- A numeral is told by its characters, and by having any. -/
instance instDecidableIsNumeral (cs : List Char) : Decidable (IsNumeral cs) :=
  decidable_of_iff (cs ≠ [] ∧ AllDigits cs) ⟨fun h => ⟨h.1, h.2⟩, fun h => ⟨h.1, h.2⟩⟩

/-- So are numbers of one width. -/
instance instDecidableOfWidth (w : Nat) (gs : List (List Char)) : Decidable (OfWidth w gs) :=
  decidable_of_iff (gs ≠ [] ∧ (∀ g ∈ gs, g.length = w) ∧ ∀ g ∈ gs, AllDigits g)
    ⟨fun h => ⟨h.1, h.2.1, h.2.2⟩, fun h => ⟨h.1, h.2, h.3⟩⟩

section Numerals

variable {a : List Char} {ns : List (List Char)} {w : Nat}

/-- What no digit is, no character of a text of digits is. -/
theorem AllDigits.all_eq_false (h : AllDigits a) {p : Char → Bool}
    (hp : ∀ c : Char, c.isDigit = true → p c = false) : ∀ c ∈ a, p c = false :=
  fun c hc => hp c (h c hc)

/-- A text of digits has nothing to be left out. -/
theorem AllDigits.digitsOf (h : AllDigits a) : Text.digitsOf a = a :=
  List.filter_eq_self.2 h

/-- A numeral has no margins. -/
theorem IsNumeral.flush (h : IsNumeral a) : Text.Flush a :=
  Text.flush_of_not_blank h.ne_nil (h.allDigits.all_eq_false fun _ => Text.isBlank_of_isDigit)

/-- A numeral that is not too long is the amount that it writes. -/
theorem amount_numeral (ha : IsNumeral a) (hlen : a.length ≤ Text.maxDigits) :
    amount a = .ok (Text.toNat a) := by
  rw [amount, ha.allDigits.digitsOf]
  exact if_neg (Nat.not_lt.2 hlen)

/-- And no other piece of a line writes an amount than one with few digits. -/
theorem length_le_of_amount_eq_ok {n : Nat} (h : amount a = .ok n) :
    (Text.digitsOf a).length ≤ Text.maxDigits := by
  unfold amount at h
  dsimp only at h
  split at h
  · cases h
  · next hlen => exact Nat.not_lt.1 hlen

/-- Numbers of a width above zero are numerals. -/
theorem OfWidth.isNumeral (h : OfWidth w ns) (hw : 0 < w) : ∀ n ∈ ns, IsNumeral n := by
  intro n hn
  refine ⟨?_, h.allNumbers n hn⟩
  rintro rfl
  have hlen := h.length_eq [] hn
  rw [List.length_nil] at hlen
  omega

/-- Their common width is that width. -/
theorem OfWidth.commonWidth? (h : OfWidth w ns) : commonWidth? ns = some w := by
  cases ns with
  | nil => exact absurd rfl h.ne_nil
  | cons n ns =>
    have hn := h.length_eq n List.mem_cons_self
    have hall : (ns.all fun m => m.length == n.length) = true := by
      rw [List.all_eq_true]
      intro m hm
      rw [beq_iff_eq, hn, h.length_eq m (List.mem_cons_of_mem n hm)]
    rw [Slip.commonWidth?, if_pos hall, hn]

/-- Numerals are the numbers of themselves. -/
theorem numbers_numerals (h : ∀ n ∈ ns, IsNumeral n) : numbers ns = ns := by
  have hmap : ns.map Text.digitsOf = ns := by
    rw [List.map_congr_left fun n hn => (h n hn).allDigits.digitsOf, List.map_id']
  rw [numbers, hmap, List.filter_eq_self]
  intro n hn
  simpa using (h n hn).ne_nil

/-- Numbers in a row are flush, whatever stands between them. -/
theorem OfWidth.flush_intercalate (h : OfWidth w ns) (hw : 0 < w) (sep : List Char) :
    Text.Flush (sep.intercalate ns) :=
  Text.flush_intercalate sep h.ne_nil fun n hn => (h.isNumeral hw n hn).flush

end Numerals

end Slip
end Lottery
