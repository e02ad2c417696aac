/-
# A decimal that is written is a literal

| text of a decimal | point | as a literal |
| --- | --- | --- |
| `0.0015` | in front of the digits | whole `0`, zeros filled in |
| `12.5` | among the digits | whole `12`, fraction `5` |
| `1500.0` | behind the digits | zeros filled in, fraction `0` |
| `1.5e+16` | after the first digit | with an exponent of two digits or more |

Whichever way its digits are set out, the text of a decimal is that of a literal, and
the number of the literal is the decimal (`exists_write`).
-/

import Lottery.Binary64.Shortest
import Lottery.Proofs.Decimal.Literal

namespace Lottery

namespace Text

variable {n : Nat} {ds : List Char}

/-- A number is read back from its digits. -/
theorem toNat_ofNat (n : Nat) : toNat (ofNat n) = n := by
  have h := Nat.ofDigitChars_toDigits (b := 10) (n := n) (by decide) (by decide)
  rw [Nat.ofDigitChars_eq_foldl] at h
  rw [toNat, ofNat]
  simp only [Nat.mul_comm] at h ⊢
  exact h

/-- It is written with digits alone. -/
theorem isDigit_of_mem_ofNat {c : Char} (h : c ∈ ofNat n) : c.isDigit = true :=
  Nat.isDigit_of_mem_toDigits (by decide) (by decide) h

/-- Zeros write zero. -/
theorem toNat_replicate_zero (n : Nat) : toNat (List.replicate n '0') = 0 := by
  induction n with
  | zero => rfl
  | succ n ih => rw [List.replicate_succ', toNat_append, ih]; rfl

/-- Zeros in front do not count. -/
theorem toNat_zeros_append (n : Nat) (ds : List Char) :
    toNat (List.replicate n '0' ++ ds) = toNat ds := by
  rw [toNat_append, toNat_replicate_zero, Nat.zero_mul, Nat.zero_add]

/-- Zeros behind multiply by powers of ten. -/
theorem toNat_append_zeros (n : Nat) (ds : List Char) :
    toNat (ds ++ List.replicate n '0') = toNat ds * 10 ^ n := by
  rw [toNat_append, toNat_replicate_zero, List.length_replicate, Nat.add_zero]

/-- Zeros in front of digits are digits. -/
theorem isDigit_of_mem_zeros_append {c : Char} (hds : ∀ c ∈ ds, c.isDigit = true)
    (h : c ∈ List.replicate n '0' ++ ds) : c.isDigit = true := by
  rcases List.mem_append.1 h with h | h
  · rw [List.eq_of_mem_replicate h]
    rfl
  · exact hds c h

end Text

open Binary64 (Layout)

namespace Decimal

/-- The sign that is written in front of a number. -/
def Sign.of (negative : Bool) : Sign :=
  if negative then minus else none

/-- A minus is written for what is negative, and only for that. -/
theorem Sign.negative_of (negative : Bool) : (Sign.of negative).negative = negative := by
  cases negative <;> rfl

/-- A literal whose number is written by digits with the point after the first `place` of them. -/
structure Literal.SetsOut (l : Literal) (ds : List Char) (place : Int) : Prop where
  size_eq : l.decimal.size = Text.toNat ds * 10 ^ (place - ds.length)
  length_le : l.size ≤ ds.length + place.natAbs + 2

variable {ds : List Char} {place : Int}

/-- A literal sets out the digits that it has, and zeros around them. -/
theorem Literal.setsOut_of {l : Literal} (before behind : Nat)
    (h : l.whole ++ l.fraction.getD [] =
      List.replicate before '0' ++ (ds ++ List.replicate behind '0'))
    (hplace : Exponent.power l.exponent - ((l.fraction.getD []).length : Int) + behind =
      place - ds.length)
    (hlength : before + behind + (Exponent.power l.exponent).natAbs ≤ place.natAbs + 2) :
    l.SetsOut ds place := by
  -- The size first, then the length of the text.
  constructor
  · rw [Decimal.size, Literal.decimal]
    dsimp only
    rw [h, Text.toNat_zeros_append, Text.toNat_append_zeros, ← hplace, zpow_add₀ (by norm_num),
      zpow_natCast]
    push_cast
    ring
  · rw [Literal.size, h]
    simp only [List.length_append, List.length_replicate]
    omega

/-- A number below 1 begins with a zero and a point, then the zeros behind the point. -/
theorem positional_neg (ds : List Char) (k : Nat) :
    Layout.positional ds (-k) = '0' :: '.' :: (List.replicate k '0' ++ ds) := by
  cases k <;> rfl

/-- With the point before the digits, or at the first. -/
theorem exists_positional_neg (s : Sign) (hds : ∀ c ∈ ds, c.isDigit = true) (k : Nat) :
    ∃ l : Literal, l.sign = s ∧ l.chars = s.chars ++ Layout.positional ds (-k) ∧
      l.SetsOut ds (-k) := by
  -- All digits stand behind the point, with zeros filled in between.
  have hfraction : ∀ c ∈ List.replicate k '0' ++ ds, c.isDigit = true := fun c =>
    Text.isDigit_of_mem_zeros_append hds
  refine ⟨⟨s, ['0'], some _, none, List.forall_mem_singleton.2 rfl, hfraction,
    List.cons_ne_nil _ _⟩, rfl, ?_, Literal.setsOut_of (k + 1) 0 ?_ ?_ ?_⟩
  · simp [Literal.chars, Literal.point, Exponent.chars, positional_neg]
  · simp [List.replicate_succ]
  · simp [Exponent.power]
    omega
  · simp [Exponent.power]

/-- With the point behind the first digits, or behind all of them and some zeros. -/
theorem exists_positional_succ (s : Sign) (hne : ds ≠ []) (hds : ∀ c ∈ ds, c.isDigit = true)
    (k : Nat) :
    ∃ l : Literal, l.sign = s ∧ l.chars = s.chars ++ Layout.positional ds (.ofNat (k + 1)) ∧
      l.SetsOut ds (.ofNat (k + 1)) := by
  -- The point stands among the digits, or behind them with zeros filled in.
  rcases Nat.lt_or_ge (k + 1) ds.length with hlt | hge
  · refine ⟨⟨s, ds.take (k + 1), some (ds.drop (k + 1)), none,
      fun c hc => hds c (List.mem_of_mem_take hc), fun c hc => hds c (List.mem_of_mem_drop hc),
      ?_⟩, rfl, ?_, Literal.setsOut_of 0 0 ?_ ?_ ?_⟩
    · simpa using hne
    · have hdrop : (ds.drop (k + 1)).isEmpty = false := by
        rw [List.isEmpty_eq_false_iff, Ne, List.drop_eq_nil_iff]
        omega
      have hzeros : k + 1 - ds.length = 0 := by omega
      simp [Literal.chars, Literal.point, Exponent.chars, Layout.positional, hdrop, hzeros]
    · simp
    · simp [Exponent.power]
      omega
    · simp [Exponent.power]
  · refine ⟨⟨s, ds ++ List.replicate (k + 1 - ds.length) '0', some ['0'], none, ?_,
      List.forall_mem_singleton.2 rfl, ?_⟩,
      rfl, ?_, Literal.setsOut_of 0 (k + 2 - ds.length) ?_ ?_ ?_⟩
    · intro c hc
      rcases List.mem_append.1 hc with hc | hc
      · exact hds c hc
      · rw [List.eq_of_mem_replicate hc]
        rfl
    · simp
    · simp [Literal.chars, Literal.point, Exponent.chars, Layout.positional,
        List.drop_eq_nil_of_le hge, List.take_of_length_le hge]
    · have hzeros : k + 2 - ds.length = k + 1 - ds.length + 1 := by omega
      simp [hzeros, List.replicate_succ']
    · simp [Exponent.power]
      omega
    · simp [Exponent.power]
      omega

/-- **Digits with their point in place are a literal of the number,** wherever the point stands. -/
theorem exists_positional (s : Sign) (hne : ds ≠ []) (hds : ∀ c ∈ ds, c.isDigit = true)
    (place : Int) :
    ∃ l : Literal, l.sign = s ∧ l.chars = s.chars ++ Layout.positional ds place ∧
      l.SetsOut ds place := by
  cases place with
  | negSucc k => exact exists_positional_neg s hds (k + 1)
  | ofNat k =>
    cases k with
    | zero => exact exists_positional_neg s hds 0
    | succ k => exact exists_positional_succ s hne hds k

/-- The exponent behind its mark, with its sign and at least two digits. -/
theorem exists_exponentText (e : Int) : ∃ o : Exponent,
    Exponent.chars (some o) = 'e' :: Layout.standard.exponentText e ∧
      Exponent.power (some o) = e := by
  -- The exponent is filled up to two digits with zeros in front, which do not change its number.
  refine ⟨⟨'e', if e < 0 then .minus else .plus,
    List.replicate (2 - (Text.ofNat e.natAbs).length) '0' ++ Text.ofNat e.natAbs, .inl rfl,
    fun c => Text.isDigit_of_mem_zeros_append fun c => Text.isDigit_of_mem_ofNat, ?_⟩, ?_, ?_⟩
  · simp [Text.ofNat]
  · rw [Exponent.chars, Layout.exponentText]
    split <;> rfl
  · rw [Exponent.power]
    dsimp only
    rw [Text.toNat_zeros_append, Text.toNat_ofNat]
    split
    · next h =>
      show -(e.natAbs : Int) = e
      omega
    · next h =>
      show (e.natAbs : Int) = e
      omega

/-- **So are digits with an exponent.** -/
theorem exists_scientific (s : Sign) (hne : ds ≠ []) (hds : ∀ c ∈ ds, c.isDigit = true)
    (place : Int) :
    ∃ l : Literal, l.sign = s ∧ l.chars = s.chars ++ Layout.standard.scientific ds (place - 1) ∧
      l.SetsOut ds place := by
  obtain ⟨o, hchars, hpower⟩ := exists_exponentText (place - 1)
  have hmark : Layout.standard.mark = 'e' := rfl
  -- A single digit is written without a point.
  rcases Nat.lt_or_ge 1 ds.length with hlt | hge
  · refine ⟨⟨s, ds.take 1, some (ds.drop 1), some o,
      fun c hc => hds c (List.mem_of_mem_take hc), fun c hc => hds c (List.mem_of_mem_drop hc), ?_⟩,
      rfl, ?_, Literal.setsOut_of 0 0 ?_ ?_ ?_⟩
    · rwa [Option.getD_some, List.take_append_drop]
    · rw [Literal.chars, Layout.scientific, if_neg (by omega), hmark, hchars, List.append_assoc]
      rfl
    · dsimp only
      rw [Option.getD_some, List.take_append_drop]
      simp
    · dsimp only
      rw [hpower, Option.getD_some, List.length_drop]
      omega
    · dsimp only
      rw [hpower]
      omega
  · refine ⟨⟨s, ds, none, some o, hds, nofun, ?_⟩,
      rfl, ?_, Literal.setsOut_of 0 0 ?_ ?_ ?_⟩
    · simpa using hne
    · rw [Literal.chars, Layout.scientific, if_pos hge, List.take_of_length_le hge, hmark, hchars,
        List.append_nil]
      rfl
    · simp
    · have hlength : ds.length = 1 := by
        have := List.length_pos_of_ne_nil hne
        omega
      dsimp only
      rw [hpower, hlength]
      simp
    · dsimp only
      rw [hpower]
      omega

/-- Digits without the zeros behind them. -/
theorem exists_zeros (ds : List Char) : ∃ n,
    ds = (ds.reverse.dropWhile (· == '0')).reverse ++ List.replicate n '0' := by
  have hzeros : ∀ c ∈ (ds.reverse.takeWhile (· == '0')).reverse, c = '0' := by
    intro c hc
    have h := List.mem_takeWhile_imp (List.mem_reverse.1 hc)
    exact beq_iff_eq.1 h
  refine ⟨(ds.reverse.takeWhile (· == '0')).length, ?_⟩
  rw [← List.length_reverse, ← List.eq_replicate_of_mem hzeros, ← List.reverse_append,
    List.takeWhile_append_dropWhile, List.reverse_reverse]

/-- The number of a literal that sets out the digits of a decimal is the decimal. -/
theorem Literal.SetsOut.value_eq {l : Literal} {d : Decimal} {n : Nat}
    (h : l.SetsOut ds d.pointPlace) (hsign : l.sign = Sign.of d.negative)
    (hn : Text.ofNat d.coefficient = ds ++ List.replicate n '0') : l.value = d.value := by
  have hcoefficient : d.coefficient = Text.toNat ds * 10 ^ n := by
    rw [← Text.toNat_append_zeros, ← hn, Text.toNat_ofNat]
  -- The zeros that were dropped at the end are made up for by the exponent.
  have hplace : d.pointPlace - ds.length = n + d.exponent := by
    rw [pointPlace, Text.digitCount, hn, List.length_append, List.length_replicate]
    push_cast
    ring
  rw [← l.value_decimal, Decimal.value, h.size_eq, hplace, Decimal.value, Decimal.size]
  have hnegative : l.decimal.negative = d.negative := by
    rw [Literal.decimal, hsign]
    exact Sign.negative_of _
  rw [hnegative, hcoefficient, zpow_add₀ (by norm_num), zpow_natCast]
  push_cast
  rw [mul_assoc]

/-- **The text of a decimal is that of a literal,** and the number of the literal is the decimal. -/
theorem exists_write (d : Decimal) : ∃ l : Literal, l.chars = Layout.standard.write d ∧
    l.value = d.value ∧ l.size ≤ Text.digitCount d.coefficient + d.pointPlace.natAbs + 4 := by
  obtain ⟨n, hn⟩ := exists_zeros (Text.ofNat d.coefficient)
  have hsign : ∀ body : List Char, (if d.negative then '-' :: body else body) =
      (Sign.of d.negative).chars ++ body := by
    cases d.negative <;> exact fun _ => rfl
  rw [Layout.write]
  dsimp only
  rw [hsign]
  -- Only that these are the digits without the zeros at the end is used of them.
  generalize ((Text.ofNat d.coefficient).reverse.dropWhile (· == '0')).reverse = ds at hn ⊢
  have hds : ∀ c ∈ ds, c.isDigit = true := fun c hc =>
    Text.isDigit_of_mem_ofNat (n := d.coefficient) (hn ▸ List.mem_append_left _ hc)
  have hlength : ds.length ≤ Text.digitCount d.coefficient := by
    rw [Text.digitCount, hn, List.length_append]
    exact Nat.le_add_right _ _
  -- Zero has no digits left, and is written as `0.0`.
  cases ds with
  | nil =>
    obtain ⟨l, hl, hchars, hsets⟩ := exists_positional (Sign.of d.negative)
      (List.cons_ne_nil '0' []) (List.forall_mem_singleton.2 rfl) 1
    have hzero : d.coefficient = 0 := by
      rw [← Text.toNat_ofNat d.coefficient, hn, Text.toNat_append_zeros]
      exact Nat.zero_mul _
    have hlength := hsets.length_le
    have hvalue : l.value = d.value := by
      have hone : Text.ofNat 0 = ['0'] := by decide
      have hplace : (⟨d.negative, 0, 0⟩ : Decimal).pointPlace = 1 := by
        rw [pointPlace, Text.digitCount, hone]
        rfl
      rw [← hplace] at hsets
      rw [hsets.value_eq hl (n := 0) hone]
      simp only [Decimal.value, Decimal.size, hzero, Nat.cast_zero, zero_mul]
    exact ⟨l, hchars, hvalue, hlength.trans (Nat.le_add_left 4 _)⟩
  | cons c cs =>
    have hne := List.cons_ne_nil c cs
    rw [List.isEmpty_cons, if_neg (by decide)]
    split
    · obtain ⟨l, hl, hchars, hsets⟩ := exists_positional (Sign.of d.negative) hne hds d.pointPlace
      exact ⟨l, hchars, hsets.value_eq hl hn, hsets.length_le.trans (by omega)⟩
    · obtain ⟨l, hl, hchars, hsets⟩ := exists_scientific (Sign.of d.negative) hne hds d.pointPlace
      exact ⟨l, hchars, hsets.value_eq hl hn, hsets.length_le.trans (by omega)⟩

end Decimal
end Lottery
