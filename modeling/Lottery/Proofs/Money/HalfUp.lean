/-
# Amounts are rounded half up, from the exact number

| the text of a value | what it is rounded to |
| --- | --- |
| the text of a decimal literal | the double nearest to the nearest hundredth `q`, a half away |
| the same, with `q` of `10 ^ 26` or more | the fault that it is beyond cents |
| anything else | `0.0` |

The literal may have any number of digits and any exponent that fits: nothing is
rounded before the hundredth is found, and nothing but that hundredth is rounded to a
double (`RoundsHalfUp`).  Every integer that can be written and every finite double is
the text of such a literal.

`round_money` takes any value: it reads the text of the value as a decimal, and
what is no decimal counts as 0.
-/

import Lottery.Proofs.Binary64.Shortest
import Lottery.Proofs.Computations
import Lottery.Proofs.Decimal.Layout
import Lottery.Proofs.Money
import Lottery.Value.Written

namespace Lottery

open Decimal (Literal Sign)

namespace Money

/-! ### The nearest hundredth -/

/-- The hundredth nearest to a number, a half going away from zero. -/
structure IsNearestHundredth (q v : ℚ) : Prop where
  hundredth : ∃ k : ℤ, q = k / 100
  near : ∀ k : ℤ, |q - v| ≤ |k / 100 - v|
  away : ∀ k : ℤ, |k / 100 - v| = |q - v| → |(k / 100 : ℚ)| ≤ |q|

variable {q q' v : ℚ}

/-- There is no more than one. -/
theorem IsNearestHundredth.unique (h : IsNearestHundredth q v) (h' : IsNearestHundredth q' v) :
    q = q' := by
  obtain ⟨k, hk⟩ := h.hundredth
  obtain ⟨k', hk'⟩ := h'.hundredth
  -- Each is as near as any hundredth, so both are equally near, and then equally far from zero.
  have hsame : |q - v| = |q' - v| := by
    refine le_antisymm ?_ ?_
    · rw [hk']
      exact h.near k'
    · rw [hk]
      exact h'.near k
  have hsize : |q| = |q'| := by
    refine le_antisymm ?_ ?_
    · rw [hk] at hsame ⊢
      exact h'.away k hsame
    · rw [hk'] at hsame ⊢
      exact h.away k' hsame.symm
  rcases abs_eq_abs.1 hsize with heq | hopposite
  · exact heq
  · -- Two opposite numbers are as far only from zero, and zero is nearer.
    rcases abs_eq_abs.1 hsame with heq | hmiddle
    · linarith
    · have hv : v = 0 := by linarith
      have hzero := h'.near 0
      rw [hv, Int.cast_zero, zero_div, sub_zero, sub_zero, abs_zero] at hzero
      have hq' := abs_nonpos_iff.1 hzero
      linarith

/-- Rounding to a whole number, a half upwards, is within a half. -/
theorem abs_floor_sub_le {h : ℚ} (hh : 0 ≤ h) : |((⌊h + 1 / 2⌋₊ : ℤ) : ℚ) - h| ≤ 1 / 2 := by
  have hle := Nat.floor_le (add_nonneg hh one_half_pos.le)
  have hlt := Nat.lt_floor_add_one (h + 1 / 2)
  rw [Int.cast_natCast, abs_le]
  constructor <;> linarith

/-- Of two whole numbers that are as near it gives the greater. -/
theorem abs_le_floor {h : ℚ} (hh : 0 ≤ h) {j : ℤ}
    (htie : |(j : ℚ) - h| = |((⌊h + 1 / 2⌋₊ : ℤ) : ℚ) - h|) : |(j : ℚ)| ≤ ⌊h + 1 / 2⌋₊ := by
  obtain ⟨hlow, hhigh⟩ := abs_le.1 (htie.le.trans (abs_floor_sub_le hh))
  have hlow' : (-1 : ℚ) < j := by linarith
  have hj : -1 < j := by exact_mod_cast hlow'
  obtain ⟨k, rfl⟩ := Int.eq_ofNat_of_zero_le (show 0 ≤ j by omega)
  rw [Int.cast_natCast] at hhigh ⊢
  rw [abs_of_nonneg k.cast_nonneg, Nat.cast_le]
  exact Nat.le_floor (by linarith)

/-- Every hundredth is one under either sign. -/
theorem exists_withSign (negative : Bool) (k : ℤ) :
    ∃ j : ℤ, (k / 100 : ℚ) = withSign negative (j / 100) := by
  cases negative
  · exact ⟨k, rfl⟩
  · refine ⟨-k, ?_⟩
    rw [withSign, if_pos rfl, Int.cast_neg, neg_div, neg_neg]

/-- A number of hundredths is rounded to a whole one, a half upwards, and keeps its sign. -/
theorem isNearestHundredth_floor (negative : Bool) {h : ℚ} (hh : 0 ≤ h) :
    IsNearestHundredth (withSign negative (⌊h + 1 / 2⌋₊ / 100)) (withSign negative (h / 100)) := by
  -- Distances between hundredths are those between whole numbers, whatever the sign.
  have hscale : ∀ p : ℚ, |withSign negative (p / 100) - withSign negative (h / 100)| =
      |p - h| / 100 := by
    intro p
    rw [abs_withSign_sub, ← sub_div, abs_div, abs_of_pos (by norm_num : (0 : ℚ) < 100)]
  rw [← Int.cast_natCast ⌊h + 1 / 2⌋₊]
  refine ⟨?_, fun k => ?_, fun k htie => ?_⟩
  · cases negative
    · exact ⟨_, rfl⟩
    · exact ⟨-_, by rw [withSign, if_pos rfl, Int.cast_neg, neg_div]⟩
  · obtain ⟨j, hj⟩ := exists_withSign negative k
    rw [hj, hscale, hscale]
    exact div_le_div_of_nonneg_right
      (Binary64.abs_sub_le_of_half (abs_floor_sub_le hh) j) (by norm_num)
  · obtain ⟨j, hj⟩ := exists_withSign negative k
    rw [hj, hscale, hscale] at htie
    have hle := abs_le_floor hh ((div_left_inj' (by norm_num : (100 : ℚ) ≠ 0)).1 htie)
    rw [hj, abs_withSign, abs_withSign, abs_div, abs_div, Int.cast_natCast]
    exact div_le_div_of_nonneg_right (hle.trans (le_abs_self _)) (abs_nonneg _)

/-! ### Amounts -/

/-- What an amount is rounded to: a double nearest to the nearest hundredth, unless that is
`10 ^ 26` or more. -/
structure RoundsHalfUp (v : ℚ) (r : Except Fault Binary64) (q : ℚ) : Prop where
  nearest : ∀ q', IsNearestHundredth q' v ↔ q' = q
  beyond : r = .error .beyondCents ↔ 10 ^ 26 ≤ |q|
  within : |q| < 10 ^ 26 → ∃ x : Binary64, r = .ok x ∧ x.IsNearest q

/-- Less than `10 ^ 28` hundredths are far below the bound of the doubles. -/
theorem representable_hundredths {n : Nat} (hn : n < 10 ^ 28) :
    Binary64.Representable (Binary64.nearestUnits (n <<< 1074) 100) := by
  refine ⟨?_, Binary64.short_nearestUnits _ _⟩
  -- The power of two between them is far below the greatest double.
  have hlarge : 10 ^ 28 * Binary64.scale ≤ 1 <<< 1200 := by decide
  have hunits : n <<< 1074 ≤ 1 <<< 1200 := by
    rw [Binary64.shiftLeft_eq_mul_scale]
    exact (Nat.mul_le_mul_right _ hn.le).trans hlarge
  have hle : ((n <<< 1074 : Nat) : ℚ) / (100 : Nat) ≤ (1 <<< 1200 : Nat) :=
    (div_le_self (Nat.cast_nonneg _) (by norm_num)).trans (Nat.cast_le.2 hunits)
  refine (Binary64.nearestUnits_le (by decide) (Binary64.short_one_shiftLeft 1200) hle).trans_lt ?_
  decide

/-- Hundredths of a whole number of units. -/
theorem hundredths_units (n : Nat) :
    ((n <<< 1074 : Nat) : ℚ) / (100 : Nat) = n / 100 * Binary64.scale := by
  rw [Binary64.shiftLeft_eq_mul_scale, Nat.cast_mul, Nat.cast_ofNat]
  ring

/-- They are rounded to the nearest double. -/
theorem isNearest_ofHundredths (negative : Bool) {n : Nat} (hn : n < 10 ^ 28) :
    (Binary64.ofHundredths negative n).IsNearest (withSign negative (n / 100)) := by
  have hscale : (Binary64.scale : ℚ) ≠ 0 := Nat.cast_ne_zero.2 Binary64.scale_pos.ne'
  rw [← mul_div_cancel_right₀ ((n : ℚ) / 100) hscale, ← hundredths_units]
  exact Binary64.isNearest_round negative _ (by decide) (representable_hundredths hn).1

/-- **A decimal is rounded half up to cents,** then to the nearest double; it is beyond cents
exactly from `10 ^ 26` on. -/
theorem ofDecimal_roundsHalfUp (d : Decimal) :
    RoundsHalfUp d.value (ofDecimal d) (withSign d.negative (d.halfUp / 100)) := by
  have hvalue : d.value = withSign d.negative (d.hundredths / 100) := by
    rw [Decimal.value, Decimal.hundredths_eq, mul_div_cancel_right₀ _ (by norm_num)]
  have hnearest := isNearestHundredth_floor d.negative d.hundredths_nonneg
  have hsize : |withSign d.negative ((d.halfUp : ℚ) / 100)| = d.halfUp / 100 := by
    rw [abs_withSign, abs_of_nonneg (by positivity)]
  -- An amount of `10 ^ 26` is `10 ^ 28` cents, which is one digit too many.
  have hlarge : (10 : ℚ) ^ 26 ≤ d.halfUp / 100 ↔ 10 ^ 28 ≤ d.halfUp := by
    rw [le_div_iff₀ (by norm_num)]
    norm_num
  constructor
  · intro q'
    rw [hvalue]
    exact ⟨fun h => h.unique hnearest, fun h => h ▸ hnearest⟩
  · rw [hsize, hlarge, ofDecimal_eq_error_iff, and_iff_right rfl]
  · rw [hsize]
    intro h
    have hlt : d.halfUp < 10 ^ 28 := not_le.1 fun hle => not_le.2 h (hlarge.2 hle)
    exact ⟨_, ofDecimal_eq_ok_iff.2 ⟨hlt, rfl⟩, isNearest_ofHundredths d.negative hlt⟩

/-! ### Texts of numbers -/

/-- A text as an amount is read from it: without blanks around it and low lines, digits of any
script as ASCII. -/
def figures? (s : String) : Option (List Char) :=
  ((Text.trim s.toList).filter (· != '_')).mapM Numeral.fold?

/-- A text spells a literal. -/
def Spells (s : String) (l : Literal) : Prop :=
  figures? s = some l.chars

variable {s : String} {l : Literal}

/-- A text that spells a literal is read as its decimal. -/
theorem Spells.read? (h : Spells s l) : (figures? s).bind Decimal.read? = some l.decimal := by
  rw [Spells] at h
  rw [h]
  exact Decimal.read?_chars l

/-- A text does not spell two numbers: literals that it spells have one value. -/
theorem Spells.value_eq {l' : Literal} (h : Spells s l) (h' : Spells s l') :
    l.value = l'.value := by
  rw [← l.value_decimal, ← l'.value_decimal, Option.some.inj (h.read?.symm.trans h'.read?)]

/-- A decimal within the bounds of what is read. -/
def IsReadable (d : Decimal) : Prop :=
  leastExponent ≤ d.exponent ∧ d.pointPlace - 1 ≤ greatestPlace

/-- Every literal is, unless its digits or its exponent are beyond `10 ^ 18`. -/
theorem isReadable_of_size (h : l.size ≤ 10 ^ 18) : IsReadable l.decimal := by
  -- Zeros in front of a coefficient are no digits of it, so there may be fewer.
  have hcount : Text.digitCount l.decimal.coefficient ≤ (l.whole ++ l.fraction.getD []).length := by
    rw [Text.digitCount_le_iff (List.length_pos_of_ne_nil l.ne_nil)]
    refine Text.toNat_lt fun c hc => ?_
    rcases List.mem_append.1 hc with hc | hc
    · exact l.isDigit_whole c hc
    · exact l.isDigit_fraction c hc
  have hexponent : l.decimal.exponent =
    Decimal.Exponent.power l.exponent - ((l.fraction.getD []).length : Int) := rfl
  rw [Literal.size] at h
  rw [IsReadable, Decimal.pointPlace, leastExponent, greatestPlace]
  rw [List.length_append] at h hcount
  omega

/-- A text is read as a decimal if its figures are, within the bounds of exponents. -/
theorem decimal?_eq (s : String) : decimal? s = ((figures? s).bind Decimal.read?).bind fun d =>
    if leastExponent ≤ d.exponent ∧ d.pointPlace - 1 ≤ greatestPlace then some d else none :=
  (Option.bind_assoc ..).symm

/-- What spells a literal within the bounds is read as its decimal. -/
theorem decimal?_of_spells (h : Spells s l) (hl : IsReadable l.decimal) :
    decimal? s = some l.decimal := by
  rw [decimal?_eq, h.read?]
  exact if_pos hl

/-- A text that spells no literal that is read is no amount. -/
theorem decimal?_eq_none (h : ∀ l, Spells s l → ¬IsReadable l.decimal) : decimal? s = none := by
  rw [decimal?_eq, Option.bind_eq_none_iff]
  intro d hd
  obtain ⟨cs, hcs, hread⟩ := Option.bind_eq_some_iff.1 hd
  obtain ⟨l, hl, rfl⟩ := Decimal.read?_eq_some_iff.1 hread
  exact if_neg (h l (hcs.trans (congrArg some hl.symm)))

/-- A character that a literal may have. -/
def IsFigure (c : Char) : Prop :=
  c.isDigit = true ∨ c ∈ ['+', '-', '.', 'e', 'E']

/-- Figures are told by the digits and by a few other characters. -/
instance instDecidableIsFigure (c : Char) : Decidable (IsFigure c) :=
  inferInstanceAs (Decidable (_ ∨ _))

/-- A literal is written with figures alone. -/
theorem isFigure_of_mem_chars {c : Char} (h : c ∈ l.chars) : IsFigure c := by
  have hsign : ∀ s : Sign, c ∈ s.chars → IsFigure c := by
    intro s hc
    cases s with
    | none => cases hc
    | plus | minus => exact .inr (by simp_all [Sign.chars])
  -- Part by part: sign, whole, fraction behind its point, exponent behind its mark.
  unfold Literal.chars at h
  rcases List.mem_append.1 h with hc | h
  · exact hsign _ hc
  rcases List.mem_append.1 h with hc | h
  · exact .inl (l.isDigit_whole c hc)
  rcases List.mem_append.1 h with hc | h
  · have hfraction := l.isDigit_fraction c
    cases hf : l.fraction with
    | none =>
      rw [hf] at hc
      cases hc
    | some ds =>
      rw [hf] at hc hfraction
      rcases List.mem_cons.1 hc with rfl | hc
      · exact .inr (by simp)
      · exact .inl (hfraction hc)
  · cases he : l.exponent with
    | none =>
      rw [he] at h
      cases h
    | some e =>
      rw [he] at h
      rcases List.mem_cons.1 h with rfl | h
      · rcases e.isMark with hmark | hmark <;> rw [hmark] <;> exact .inr (by simp)
      rcases List.mem_append.1 h with hc | hc
      · exact hsign _ hc
      · exact .inl (e.isDigit c hc)

/-- It is read as it stands. -/
theorem IsFigure.plain {c : Char} (h : IsFigure c) :
    Numeral.fold? c = some c ∧ Text.isBlank c = false ∧ c ≠ '_' := by
  rcases h with h | h
  · refine ⟨if_pos ?_, Text.isBlank_of_isDigit h, Text.ne_of_isDigit h rfl⟩
    have hc : 48 ≤ c.toNat ∧ c.toNat ≤ 57 := by
      simpa [Char.isDigit, UInt32.le_iff_toNat_le] using h
    omega
  · simp only [List.mem_cons, List.not_mem_nil, or_false] at h
    rcases h with rfl | rfl | rfl | rfl | rfl <;> exact ⟨if_pos (by decide), rfl, by decide⟩

/-- Figures that are ASCII already are their own folded forms. -/
theorem mapM_fold_eq {cs : List Char} (h : ∀ c ∈ cs, Numeral.fold? c = some c) :
    cs.mapM Numeral.fold? = some cs := by
  induction cs with
  | nil => rfl
  | cons c cs ih =>
    rw [List.mapM_cons, h c (List.mem_cons_self ..), ih fun c hc => h c (List.mem_cons_of_mem _ hc)]
    rfl

/-- The text of a literal spells it. -/
theorem spells_ofList (l : Literal) : Spells (String.ofList l.chars) l := by
  have hplain := fun c (hc : c ∈ l.chars) => (isFigure_of_mem_chars hc).plain
  have hfilter : l.chars.filter (· != '_') = l.chars :=
    List.filter_eq_self.2 fun c hc => bne_iff_ne.2 (hplain c hc).2.2
  rw [Spells, figures?, String.toList_ofList, Text.trim,
    Text.strip_eq_self fun c hc => (hplain c hc).2.1, hfilter]
  exact mapM_fold_eq fun c hc => (hplain c hc).1

/-- What does not start with a blank still starts so when it is trimmed. -/
theorem trim_cons {c : Char} (hc : Text.isBlank c = false) (cs : List Char) :
    ∃ ds, Text.trim (c :: cs) = c :: ds := by
  -- Stripping at the end stops at `c` at the latest.
  have hdrop : ∀ ds : List Char, ∃ es, (ds ++ [c]).dropWhile Text.isBlank = es ++ [c] := by
    intro ds
    induction ds with
    | nil => exact ⟨[], List.dropWhile_cons_of_neg (by simp [hc])⟩
    | cons d ds ih =>
      rw [List.cons_append, List.dropWhile_cons]
      split
      · exact ih
      · exact ⟨d :: ds, rfl⟩
  obtain ⟨es, hes⟩ := hdrop cs.reverse
  refine ⟨es.reverse, ?_⟩
  rw [Text.trim, Text.strip, List.dropWhile_cons_of_neg (by simp [hc]), List.reverse_cons, hes,
    List.reverse_append]
  rfl

/-- A text whose first character is in no literal spells none. -/
theorem not_spells_of_head {c : Char} {cs : List Char} (hs : s.toList = c :: cs)
    (hc : Numeral.fold? c = some c ∧ Text.isBlank c = false ∧ c ≠ '_') (hfigure : ¬IsFigure c) :
    ¬Spells s l := by
  obtain ⟨ds, hds⟩ := trim_cons hc.2.1 cs
  intro h
  have hkeep : (c != '_') = true := bne_iff_ne.2 hc.2.2
  rw [Spells, figures?, hs, hds, List.filter_cons, if_pos hkeep, List.mapM_cons, hc.1] at h
  obtain ⟨c', hc', h⟩ := Option.bind_eq_some_iff.1 h
  obtain ⟨es, -, hes⟩ := Option.bind_eq_some_iff.1 h
  -- A character that is kept at the head is one of the literal.
  have hmem : c ∈ l.chars := by
    rw [← Option.some.inj hes, Option.some.inj hc']
    exact List.mem_cons_self ..
  exact hfigure (isFigure_of_mem_chars hmem)

/-! ### Values -/

/-- The decimal of an integer has its value. -/
theorem value_ofInt (n : Int) : (Decimal.ofInt n).value = n := by
  rw [Decimal.value, Decimal.size, Decimal.ofInt]
  dsimp only
  rw [zpow_zero, mul_one, Nat.cast_natAbs, Int.cast_abs, withSign]
  split
  · next hn =>
    have hlt : (n : ℚ) < 0 := by exact_mod_cast of_decide_eq_true hn
    rw [abs_of_neg hlt, neg_neg]
  · next hn =>
    have hle : (0 : ℚ) ≤ n := by exact_mod_cast not_lt.1 fun h => hn (decide_eq_true h)
    rw [abs_of_nonneg hle]

/-- Every integer that can be written is written as a literal. -/
theorem exists_literal_int {n : Int} (h : Text.isLong n.natAbs = false) :
    ∃ l : Literal, (Value.int n).written = .ok (String.ofList l.chars) ∧ l.size ≤ 10 ^ 18 ∧
      l.value = n := by
  -- An integer is a literal without fraction and exponent.
  refine ⟨⟨if n < 0 then .minus else .none, Text.ofNat n.natAbs, none, none,
    fun c => Text.isDigit_of_mem_ofNat, nofun, by simp [Text.ofNat]⟩, ?_, ?_, ?_⟩
  · show Value.shownInt n = _
    unfold Value.shownInt
    rw [h, if_neg (by decide)]
    simp only [Literal.chars, Literal.point, Decimal.Exponent.chars, List.append_nil]
    split <;> rfl
  · have hle := of_decide_eq_false h
    simp only [Literal.size, Option.getD_none, List.append_nil, Decimal.Exponent.power]
    rw [Text.digitCount, Text.maxDigits] at hle
    omega
  · rw [← Literal.value_decimal, ← value_ofInt n, Literal.decimal, Decimal.ofInt]
    dsimp only
    rw [Option.getD_none, List.append_nil, Text.toNat_ofNat]
    congr 2
    split <;> simp [Sign.negative, *]

/-- Every finite double is written as a literal, that of its shortest decimal, and it is the double
nearest to its number. -/
theorem exists_literal_real {x : Binary64} (h : x.isFinite = true) :
    ∃ (l : Literal) (d : Decimal), x.written = String.ofList l.chars ∧ l.size ≤ 10 ^ 18 ∧
      x.shortest? = some d ∧ l.value = d.value ∧ x.IsNearest l.value := by
  obtain ⟨d, hd, hround, hcoefficient, hplace⟩ := Binary64.exists_shortest?_of_isFinite h
  obtain ⟨l, hl, hvalue, hsize⟩ := Decimal.exists_write d
  -- The shortest decimal has no more than seventeen digits, so its literal is short too.
  have hcount : Text.digitCount d.coefficient ≤ 18 :=
    (Text.digitCount_le_iff (by decide)).2 (hcoefficient.trans_lt (by decide))
  refine ⟨l, d, ?_, by omega, hd, hvalue, ?_⟩
  · cases x with
    | nan => cases h
    | infinite negative => cases h
    | finite negative u hu =>
      rw [Binary64.written, hd, hl]
      rfl
  · rw [hvalue]
    exact Binary64.isNearest_of_ofDecimal h hround

/-- What is not read as a number spells none. -/
theorem not_spells_of_read? (h : (figures? s).bind Decimal.read? = none) : ¬Spells s l :=
  fun hl => nomatch h.symm.trans hl.read?

/-- The characters of three texts in a row. -/
theorem toList_append₃ (s t u : String) :
    (s ++ t ++ u).toList = s.toList ++ (t.toList ++ u.toList) := by
  rw [String.toList_append, String.toList_append, List.append_assoc]

/-- The text of a list or an object spells no literal, and neither does that of a value that is
null, a truth value, an infinity or not a number. -/
theorem not_spells_of_written {v : Value} (h : v.written = .ok s) (htext : ∀ t, v ≠ .text t)
    (hint : ∀ n, v ≠ .int n) (hreal : ∀ x, v = .real x → x.isFinite = false) : ¬Spells s l := by
  -- Null, truth values, `inf` and `nan` are written as words, lists and objects between brackets:
  -- none is a literal.
  cases v with
  | text t => exact absurd rfl (htext t)
  | int n => exact absurd rfl (hint n)
  | null =>
    obtain rfl := Except.ok.inj h
    exact not_spells_of_read? (by decide)
  | bool b =>
    cases b <;> obtain rfl := Except.ok.inj h <;> exact not_spells_of_read? (by decide)
  | real x =>
    obtain rfl := Except.ok.inj h
    cases x with
    | nan => exact not_spells_of_read? (by decide)
    | infinite negative => cases negative <;> exact not_spells_of_read? (by decide)
    | finite => exact nomatch hreal _ rfl
  | list vs =>
    change Value.shown (.list vs) = _ at h
    rw [Value.shown] at h
    obtain ⟨parts, -, h⟩ := bind_eq_ok.1 h
    obtain rfl := Except.ok.inj h
    exact not_spells_of_head (toList_append₃ "[" _ "]") ⟨if_pos (by decide), rfl, by decide⟩
      (by decide)
  | object fields =>
    change Value.shown (.object fields) = _ at h
    rw [Value.shown] at h
    obtain ⟨parts, -, h⟩ := bind_eq_ok.1 h
    obtain rfl := Except.ok.inj h
    exact not_spells_of_head (toList_append₃ "\x7b" _ "\x7d")
      ⟨if_pos (by decide), rfl, by decide⟩ (by decide)

/-- An integer that was written has no more than 4300 digits. -/
theorem isLong_eq_false_of_written {n : Int} (h : (Value.int n).written = .ok s) :
    Text.isLong n.natAbs = false := by
  change Value.shownInt n = _ at h
  unfold Value.shownInt at h
  dsimp only at h
  split at h
  · cases h
  · next hlong => exact Bool.eq_false_iff.2 hlong

/-- A value whose text spells a literal is rounded as that literal. -/
theorem round_of_spells {v : Value} (h : v.written = .ok s) (hl : Spells s l)
    (hreadable : IsReadable l.decimal) : ∃ q, RoundsHalfUp l.value (round v) q := by
  -- Texts, integers and finite doubles are all the values that a literal can spell.
  by_cases htext : ∃ t, v = .text t
  · obtain ⟨t, rfl⟩ := htext
    obtain rfl := Except.ok.inj h
    rw [round, decimal?_of_spells hl hreadable, ← l.value_decimal]
    exact ⟨_, ofDecimal_roundsHalfUp _⟩
  by_cases hint : ∃ n, v = .int n
  · obtain ⟨n, rfl⟩ := hint
    have hlong := isLong_eq_false_of_written h
    obtain ⟨l', hwritten, -, hvalue⟩ := exists_literal_int hlong
    obtain rfl := Except.ok.inj (h.symm.trans hwritten)
    rw [hl.value_eq (spells_ofList l'), hvalue, ← value_ofInt, round, hlong]
    exact ⟨_, ofDecimal_roundsHalfUp _⟩
  by_cases hreal : ∃ x, v = .real x ∧ x.isFinite = true
  · obtain ⟨x, rfl, hx⟩ := hreal
    obtain ⟨l', d, hwritten, -, hd, hvalue, -⟩ := exists_literal_real hx
    obtain rfl := Except.ok.inj h
    rw [hl.value_eq (hwritten ▸ spells_ofList l'), hvalue, round, ofDouble, hd]
    exact ⟨_, ofDecimal_roundsHalfUp _⟩
  · refine absurd hl (not_spells_of_written h (fun t ht => htext ⟨t, ht⟩)
      (fun n hn => hint ⟨n, hn⟩) fun x hx => ?_)
    exact Bool.eq_false_iff.2 fun hfinite => hreal ⟨x, hx, hfinite⟩

/-- A value whose text spells none that is read is rounded to zero. -/
theorem round_of_not_spells {v : Value} (h : v.written = .ok s)
    (hn : ∀ l, Spells s l → ¬IsReadable l.decimal) : round v = .ok (.zero false) := by
  -- Integers and finite doubles are spelled by a readable literal, so they are none of these.
  cases v with
  | null | bool b | list vs | object fields => rfl
  | text t =>
    obtain rfl := Except.ok.inj h
    rw [round, decimal?_eq_none hn]
  | int n =>
    obtain ⟨l, hwritten, hsize, -⟩ := exists_literal_int (isLong_eq_false_of_written h)
    obtain rfl := Except.ok.inj (h.symm.trans hwritten)
    exact absurd (isReadable_of_size hsize) (hn l (spells_ofList l))
  | real x =>
    cases x with
    | nan => rfl
    | infinite negative => rfl
    | finite negative u hu =>
      obtain ⟨l, -, hwritten, hsize, -⟩ := exists_literal_real (x := .finite negative u hu) rfl
      obtain rfl := Except.ok.inj h
      exact absurd (isReadable_of_size hsize) (hn l (hwritten ▸ spells_ofList l))

/-- **Amounts are rounded half up, once, from the exact number.**  A value whose text spells a
literal comes to the double nearest to its nearest hundredth, or is beyond cents from `10 ^ 26` on;
any other value comes to zero.  The texts of literals are among these, and so are those of the
integers of no more than 4300 digits, which write the integer, and of the finite doubles, which
write a number that the double is nearest to. -/
theorem round_halfUp :
    (∀ (v : Value) (s : String), v.written = .ok s →
      (∀ l, Spells s l → IsReadable l.decimal → ∃ q, RoundsHalfUp l.value (round v) q) ∧
      ((∀ l, Spells s l → ¬IsReadable l.decimal) → round v = .ok (.zero false))) ∧
    (∀ l : Literal, Spells (String.ofList l.chars) l ∧
      (l.size ≤ 10 ^ 18 → IsReadable l.decimal)) ∧
    (∀ n : Int, Text.digitCount n.natAbs ≤ 4300 → ∃ l : Literal,
      (Value.int n).written = .ok (String.ofList l.chars) ∧ l.size ≤ 10 ^ 18 ∧ l.value = n) ∧
    ∀ x : Binary64, x.isFinite = true → ∃ l : Literal,
      (Value.real x).written = .ok (String.ofList l.chars) ∧ l.size ≤ 10 ^ 18 ∧
        x.IsNearest l.value := by
  refine ⟨fun v s h => ⟨fun l => round_of_spells h, round_of_not_spells h⟩,
    fun l => ⟨spells_ofList l, isReadable_of_size⟩, fun n hn => ?_, fun x hx => ?_⟩
  · exact exists_literal_int (decide_eq_false (Nat.not_lt.2 hn))
  · obtain ⟨l, -, hwritten, hsize, -, -, hnearest⟩ := exists_literal_real hx
    exact ⟨l, congrArg Except.ok hwritten, hsize, hnearest⟩

/-- The literal `-99999995E-3`. -/
def carried : Literal where
  sign := .minus
  whole := "99999995".toList
  fraction := none
  exponent := some ⟨'E', .minus, ['3'], .inr rfl, List.all_eq_true.1 (by decide), by decide⟩
  isDigit_whole := List.all_eq_true.1 (by decide)
  isDigit_fraction := nofun
  ne_nil := by decide

/-- Blanks around a literal and low lines in it do not matter; the half of `-99999.995` does. -/
theorem round_halfUp_carried : Spells " -9999_9995E-3 " carried ∧
    carried.value = -99999995 / 1000 ∧
    ∃ q, RoundsHalfUp carried.value (round (.text " -9999_9995E-3 ")) q := by
  -- Blanks, a low line between digits and an exponent, and a half that is carried.
  have hspells : Spells " -9999_9995E-3 " carried := by
    unfold Spells
    decide
  refine ⟨hspells, ?_, (round_halfUp.1 _ _ rfl).1 _ hspells (isReadable_of_size (by decide))⟩
  have hwhole : Text.toNat carried.whole = 99999995 := by decide
  have hpower : Decimal.Exponent.power carried.exponent = -3 := by decide
  rw [Literal.value, hwhole, hpower]
  norm_num [withSign, carried, Sign.negative, Text.toNat]

end Money
end Lottery
