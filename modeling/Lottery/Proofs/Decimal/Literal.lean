/-
# Decimal literals

| part | what it is | example |
| --- | --- | --- |
| sign | nothing, `+` or `-` | `-` |
| whole | digits | `12` |
| fraction | nothing, or a point and digits | `.50` |
| exponent | nothing, or `e` or `E`, a sign and at least one digit | `e-3` |

A literal has a digit before or after the point.  A text is read as a number if and
only if it is the text of a literal, and the number is that of the literal
(`read?_eq_some_iff`, `value_decimal`).
-/

import Lottery.Proofs.Decimal.Size
import Lottery.Proofs.Text.Pieces
import Mathlib.Data.List.TakeWhile
import Mathlib.Tactic.FieldSimp

namespace Lottery

namespace Text

/-- Digits that follow a number shift it by their count and add what they write. -/
theorem foldl_digits (cs : List Char) (n : Nat) :
    cs.foldl (fun n c => n * 10 + (c.toNat - 48)) n = n * 10 ^ cs.length + toNat cs := by
  unfold toNat
  induction cs generalizing n with
  | nil => simp
  | cons c cs ih =>
    rw [List.foldl_cons, List.foldl_cons, ih, ih (0 * 10 + _), List.length_cons, Nat.pow_succ]
    ring

/-- Digits in front count by their place. -/
theorem toNat_append (xs ys : List Char) :
    toNat (xs ++ ys) = toNat xs * 10 ^ ys.length + toNat ys := by
  rw [toNat, List.foldl_append, foldl_digits]
  rfl

/-- Some digits write less than the power of ten to their count. -/
theorem toNat_lt {cs : List Char} (h : ∀ c ∈ cs, c.isDigit = true) : toNat cs < 10 ^ cs.length := by
  -- The last digit is the one that counts once, so the induction is on it.
  induction cs using List.reverseRecOn with
  | nil => exact Nat.one_pos
  | append_singleton cs c ih =>
    have hc : c.toNat - 48 < 10 := by
      have := h c (by simp)
      simp only [Char.isDigit, Bool.and_eq_true, decide_eq_true_eq] at this
      have h57 : c.toNat ≤ 57 := this.2
      omega
    have hcs := ih fun c hc => h c (List.mem_append_left _ hc)
    rw [toNat_append, List.length_append, Nat.pow_add]
    have : toNat [c] = c.toNat - 48 := by simp [toNat]
    simp only [List.length_singleton, this]
    omega

/-- A class of characters is read to the first character that is not of it. -/
theorem span_append {p : Char → Bool} {ds cs : List Char} (hds : ∀ c ∈ ds, p c = true)
    (hcs : ∀ c ∈ cs.head?, p c = false) :
    (ds ++ cs).takeWhile p = ds ∧ (ds ++ cs).dropWhile p = cs := by
  rw [List.takeWhile_append_of_pos hds, List.dropWhile_append_of_pos hds]
  cases cs with
  | nil => simp
  | cons c cs =>
    have hc : p c = false := hcs c rfl
    simp [hc]

end Text

namespace Decimal

/-! ### What a literal is -/

/-- A sign in front of a number, or none. -/
inductive Sign where
  | none
  | plus
  | minus
  deriving DecidableEq

namespace Sign

/-- The text of a sign. -/
def chars : Sign → List Char
  | none => []
  | plus => ['+']
  | minus => ['-']

/-- Is it a minus? -/
def negative : Sign → Bool
  | minus => true
  | _ => false

end Sign

/-- An exponent of ten. -/
structure Exponent where
  mark : Char
  sign : Sign
  digits : List Char
  isMark : mark = 'e' ∨ mark = 'E'
  isDigit : ∀ c ∈ digits, c.isDigit = true
  ne_nil : digits ≠ []

namespace Exponent

/-- The text of an exponent; that of no exponent is empty. -/
def chars : Option Exponent → List Char
  | none => []
  | some e => e.mark :: (e.sign.chars ++ e.digits)

/-- The power of ten that an exponent writes; no exponent writes none. -/
def power : Option Exponent → Int
  | none => 0
  | some e => if e.sign.negative then -(Text.toNat e.digits : Int) else Text.toNat e.digits

end Exponent

/-- A decimal literal. -/
structure Literal where
  sign : Sign
  whole : List Char
  fraction : Option (List Char)
  exponent : Option Exponent
  isDigit_whole : ∀ c ∈ whole, c.isDigit = true
  isDigit_fraction : ∀ c ∈ fraction.getD [], c.isDigit = true
  ne_nil : whole ++ fraction.getD [] ≠ []

namespace Literal

/-- The text of a fraction: a point and its digits, if there is one. -/
def point : Option (List Char) → List Char
  | none => []
  | some ds => '.' :: ds

/-- The text of a literal. -/
def chars (l : Literal) : List Char :=
  l.sign.chars ++ (l.whole ++ (point l.fraction ++ Exponent.chars l.exponent))

/-- The number that a literal writes. -/
def value (l : Literal) : ℚ :=
  withSign l.sign.negative ((Text.toNat l.whole +
    Text.toNat (l.fraction.getD []) / 10 ^ (l.fraction.getD []).length) *
      10 ^ Exponent.power l.exponent)

/-- The decimal that a literal is read as. -/
def decimal (l : Literal) : Decimal :=
  ⟨l.sign.negative, Text.toNat (l.whole ++ l.fraction.getD []),
    Exponent.power l.exponent - ((l.fraction.getD []).length : Int)⟩

/-- How long a literal is: its digits, and the size of its exponent. -/
def size (l : Literal) : Nat :=
  (l.whole ++ l.fraction.getD []).length + (Exponent.power l.exponent).natAbs

/-- The decimal of a literal has its value. -/
theorem value_decimal (l : Literal) : l.decimal.value = l.value := by
  have hten : (10 : ℚ) ^ (l.fraction.getD []).length ≠ 0 := pow_ne_zero _ (by norm_num)
  rw [Decimal.value, Decimal.size, value, decimal]
  dsimp only
  rw [Text.toNat_append, zpow_sub₀ (by norm_num), zpow_natCast]
  congr 1
  push_cast
  field_simp

end Literal

/-! ### What is read -/

/-- The sign of a literal is read off, if what follows has none of its own. -/
theorem takeSign_chars (s : Sign) {cs : List Char} (h : ∀ c ∈ cs.head?, c ≠ '+' ∧ c ≠ '-') :
    takeSign (s.chars ++ cs) = (s.negative, cs) := by
  cases s with
  | plus | minus => rfl
  | none =>
    cases cs with
    | nil => rfl
    | cons c cs =>
      obtain ⟨hplus, hminus⟩ := h c rfl
      show takeSign (c :: cs) = (false, c :: cs)
      -- Without a sign the text begins with no sign either, so nothing is taken.
      unfold takeSign
      split
      · next heq => exact absurd (List.cons.inj heq).1 hminus
      · next heq => exact absurd (List.cons.inj heq).1 hplus
      · rfl

/-- Whatever is read off as a sign is one. -/
theorem exists_takeSign (cs : List Char) :
    ∃ s : Sign, s.chars ++ (takeSign cs).2 = cs ∧ s.negative = (takeSign cs).1 := by
  unfold takeSign
  split
  · exact ⟨.minus, rfl, rfl⟩
  · exact ⟨.plus, rfl, rfl⟩
  · exact ⟨.none, rfl, rfl⟩

/-- The exponent that was written is read. -/
theorem exponent?_chars (o : Option Exponent) :
    exponent? (Exponent.chars o) = some (Exponent.power o) := by
  cases o with
  | none => rfl
  | some e =>
    have hmark : (e.mark == 'e' || e.mark == 'E') = true := by
      rcases e.isMark with h | h <;> simp [h]
    -- The digits behind the sign begin with none, so the sign is taken whole.
    have hsign : takeSign (e.sign.chars ++ e.digits) = (e.sign.negative, e.digits) :=
      takeSign_chars e.sign fun c hc =>
        have hdigit := e.isDigit c (List.mem_of_mem_head? hc)
        ⟨Text.ne_of_isDigit hdigit rfl, Text.ne_of_isDigit hdigit rfl⟩
    have hdigits : (e.digits.isEmpty || !e.digits.all Char.isDigit) = false := by
      simp [e.ne_nil, List.all_eq_true.2 e.isDigit]
    show exponent? (e.mark :: (e.sign.chars ++ e.digits)) = _
    rw [exponent?, if_pos hmark, hsign]
    dsimp only
    rw [hdigits]
    rfl

/-- What is read as an exponent was written as one, or is missing. -/
theorem exists_exponent {cs : List Char} {k : Int} (h : exponent? cs = some k) :
    ∃ o : Option Exponent, Exponent.chars o = cs ∧ Exponent.power o = k := by
  cases cs with
  | nil => exact ⟨none, rfl, Option.some.inj h⟩
  | cons c cs =>
    rw [exponent?] at h
    split at h
    · next hmark =>
      dsimp only at h
      split at h
      · cases h
      · next hdigits =>
        -- What stands behind the mark and the sign is what was found to be digits.
        obtain ⟨s, hs, hnegative⟩ := exists_takeSign cs
        simp only [Bool.or_eq_true, Bool.not_eq_true', not_or, Bool.not_eq_false,
          List.isEmpty_iff] at hdigits
        refine ⟨some ⟨c, s, (takeSign cs).2, by simpa using hmark,
          List.all_eq_true.1 hdigits.2, hdigits.1⟩, congrArg (c :: ·) hs, ?_⟩
        rw [← Option.some.inj h, ← hnegative]
        rfl
    · cases h

/-- What follows the digits before the point starts with no digit. -/
theorem head_point {f : Option (List Char)} {o : Option Exponent} :
    ∀ c ∈ (Literal.point f ++ Exponent.chars o).head?, c.isDigit = false := by
  intro c hc
  cases f with
  | some ds => obtain rfl := Option.some.inj hc; rfl
  | none =>
    cases o with
    | none => cases hc
    | some e =>
      obtain rfl := Option.some.inj hc
      rcases e.isMark with h | h <;> rw [h] <;> rfl

/-- The digits after the point are read, up to the exponent. -/
theorem takeFraction_point {f : Option (List Char)} (o : Option Exponent)
    (h : ∀ c ∈ f.getD [], c.isDigit = true) :
    takeFraction (Literal.point f ++ Exponent.chars o) = (f.getD [], Exponent.chars o) := by
  cases f with
  | some ds =>
    have hds : ∀ c ∈ ds, c.isDigit = true := h
    obtain ⟨htake, hdrop⟩ := Text.span_append hds (head_point (f := none) (o := o))
    rw [Literal.point, List.nil_append] at htake hdrop
    show ((ds ++ Exponent.chars o).takeWhile _, (ds ++ Exponent.chars o).dropWhile _) = _
    rw [htake, hdrop]
    rfl
  | none =>
    show takeFraction (Exponent.chars o) = _
    cases o with
    | none => rfl
    | some e =>
      unfold takeFraction
      -- A mark is no point, so without a fraction nothing is taken.
      split
      · next heq =>
        have hmark : e.mark = '.' := (List.cons.inj heq).1
        rcases e.isMark with h | h <;> rw [h] at hmark <;> exact absurd hmark (by decide)
      · rfl

/-- What is read as a fraction was written as one, with digits after the point. -/
theorem exists_fraction (cs : List Char) :
    ∃ f : Option (List Char), Literal.point f ++ (takeFraction cs).2 = cs ∧
      f.getD [] = (takeFraction cs).1 ∧ ∀ c ∈ f.getD [], c.isDigit = true := by
  unfold takeFraction
  split
  · next cs =>
    refine ⟨some (cs.takeWhile Char.isDigit), ?_, rfl, fun c hc => List.mem_takeWhile_imp hc⟩
    exact congrArg ('.' :: ·) List.takeWhile_append_dropWhile
  · exact ⟨none, rfl, rfl, nofun⟩

/-- Behind its sign a literal starts with a digit or the point. -/
theorem head_unsigned (l : Literal) :
    ∃ c cs, l.whole ++ (Literal.point l.fraction ++ Exponent.chars l.exponent) = c :: cs ∧
      (c.isDigit = true ∨ c = '.') := by
  cases hw : l.whole with
  | cons c cs => exact ⟨c, _, rfl, .inl (l.isDigit_whole c (by simp [hw]))⟩
  | nil =>
    cases hf : l.fraction with
    | some ds => exact ⟨'.', _, rfl, .inr rfl⟩
    | none => exact absurd (by rw [hw, hf]; rfl) l.ne_nil

/-- **A literal is read as its decimal.** -/
theorem read?_chars (l : Literal) : read? l.chars = some l.decimal := by
  -- A literal without a sign begins with a digit or a point, so no sign is taken of its own.
  have hhead : ∀ c ∈ (l.whole ++ (Literal.point l.fraction ++ Exponent.chars l.exponent)).head?,
      c ≠ '+' ∧ c ≠ '-' := by
    obtain ⟨c, cs, hcs, h⟩ := head_unsigned l
    rw [hcs]
    intro c' hc'
    obtain rfl := Option.some.inj hc'
    rcases h with h | rfl
    · exact ⟨Text.ne_of_isDigit h rfl, Text.ne_of_isDigit h rfl⟩
    · decide
  obtain ⟨htake, hdrop⟩ := Text.span_append l.isDigit_whole
    (head_point (f := l.fraction) (o := l.exponent))
  have hempty : (l.whole.isEmpty && (l.fraction.getD []).isEmpty) = false := by
    have := l.ne_nil
    rw [Ne, List.append_eq_nil_iff] at this
    simpa using this
  unfold read? Literal.chars
  rw [takeSign_chars l.sign hhead]
  dsimp only
  rw [htake, hdrop, takeFraction_point l.exponent l.isDigit_fraction]
  dsimp only
  rw [hempty, exponent?_chars]
  rfl

/-- **What is read as a number is the text of a literal,** and the number is that of the literal. -/
theorem read?_eq_some_iff {cs : List Char} {d : Decimal} :
    read? cs = some d ↔ ∃ l : Literal, l.chars = cs ∧ l.decimal = d := by
  constructor
  · intro h
    unfold read? at h
    obtain ⟨s, hs, hnegative⟩ := exists_takeSign cs
    dsimp only at h
    -- What was read is taken apart in the order of reading: sign, whole, fraction, exponent.
    generalize (takeSign cs).2 = body at hs h
    obtain ⟨f, hf, hfraction, hdigits⟩ := exists_fraction (body.dropWhile Char.isDigit)
    split at h
    · cases h
    · next hempty =>
      obtain ⟨k, hk, rfl⟩ := Option.map_eq_some_iff.1 h
      obtain ⟨o, ho, rfl⟩ := exists_exponent hk
      refine ⟨⟨s, body.takeWhile Char.isDigit, f, o, fun c hc => List.mem_takeWhile_imp hc,
        hdigits, ?_⟩, ?_, ?_⟩
      · rw [← hfraction] at hempty
        rw [Ne, List.append_eq_nil_iff]
        simpa using hempty
      · show s.chars ++ (_ ++ (Literal.point f ++ Exponent.chars o)) = cs
        rw [ho, hf, List.takeWhile_append_dropWhile, hs]
      · simp only [Literal.decimal, hnegative, hfraction]
  · rintro ⟨l, rfl, rfl⟩
    exact read?_chars l

end Decimal
end Lottery
