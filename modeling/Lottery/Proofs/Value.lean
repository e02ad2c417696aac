/-
# What can be made of a value

| made of a value | fails |
| --- | --- |
| a text | only of a long integer |
| a double, an amount, a weight | beyond the doubles only of an integer (`Value.IsBeyond`) |
| its elements | of null, a truth value or a number |

What is found in a value without long integers is such a value again, be it a
field, an element, or what stands in for one that is missing.  It can be written,
and a value with a long integer cannot (`written_eq_error_iff`).
-/

import Lottery.Entries
import Lottery.Proofs.Computations
import Lottery.Value.Written

namespace Lottery

/-- Is the fault a bound that something is beyond? -/
def Fault.IsBound (f : Fault) : Prop :=
  f = .beyondDoubles ∨ f = .beyondCents ∨ f = .tooDeep

namespace Value

variable {v : Value} {fields : List (String × Value)} {f : Fault}

/-! ### Presence -/

/-- What counts as present is not there instead of something else. -/
theorem orElse_eq_iff {u w : Value} (hw : w.isPresent = false) (hu : u.isPresent = true) :
    v.orElse w = u ↔ v = u := by
  unfold orElse
  split
  · exact Iff.rfl
  · next hv =>
    constructor
    · rintro rfl
      rw [hw] at hu
      cases hu
    · rintro rfl
      exact absurd hu hv

/-- A list with elements is what stands there, since the default is the empty list. -/
theorem orElse_list_eq_iff {us : List Value} (h : us ≠ []) :
    v.orElse (.list []) = .list us ↔ v = .list us :=
  orElse_eq_iff rfl (by simp [isPresent, h])

/-- An object with fields is what stands there, since the default is the empty object. -/
theorem orElse_object_eq_iff (h : fields ≠ []) :
    v.orElse (.object []) = .object fields ↔ v = .object fields :=
  orElse_eq_iff rfl (by simp [isPresent, h])

/-! ### Doubles -/

/-- A value that is no double is an integer beyond the doubles, a value of a kind that is no number,
or a text that writes none. -/
theorem toDouble_eq_error (h : v.toDouble = .error f) :
    f = .beyondDoubles ∨ (∃ kind, f = .notNumeric kind) ∨ ∃ s, f = .notNumeral s := by
  -- Each kind of value has its own fault, and only an integer is too large.
  cases v with
  | int n => exact .inl (doubleOfInt_eq_error_iff.1 h).2
  | text s =>
    rw [toDouble] at h
    split at h
    · cases h
    · exact .inr (.inr ⟨s, (Except.error.inj h).symm⟩)
  | bool b | real x => cases h
  | null | list vs | object fields => exact .inr (.inl ⟨_, (Except.error.inj h).symm⟩)

/-- An integer that rounds to an infinity. -/
def IsBeyond (v : Value) : Prop :=
  ∃ n, v = .int n ∧ (Binary64.ofInt n).isFinite = false

/-- An integer beyond the doubles is not zero, so it counts as present. -/
theorem IsBeyond.isPresent (h : v.IsBeyond) : v.isPresent = true := by
  obtain ⟨n, rfl, hn⟩ := h
  rw [Value.isPresent, decide_eq_true_iff]
  rintro rfl
  cases hn

/-- Nothing else is beyond the doubles. -/
theorem toDouble_eq_beyond_iff : v.toDouble = .error .beyondDoubles ↔ v.IsBeyond := by
  constructor
  · intro h
    cases v with
    | int n => exact ⟨n, rfl, (doubleOfInt_eq_error_iff.1 h).1⟩
    | text s =>
      rw [toDouble] at h
      split at h <;> cases h
    | null | bool b | real x | list vs | object fields => cases h
  · rintro ⟨n, rfl, hn⟩
    exact doubleOfInt_eq_error_iff.2 ⟨hn, rfl⟩

/-- Only an integer beyond the doubles fails as an amount with that fault. -/
theorem amount_eq_beyond_iff : v.amount = .error .beyondDoubles ↔ v.IsBeyond := by
  rw [amount, toDouble_eq_beyond_iff, orElse]
  split
  · exact Iff.rfl
  · next habsent =>
    refine iff_of_false (fun h => ?_) fun h => habsent h.isPresent
    cases h.isPresent

/-- A weight fails for an integer beyond the doubles, and for nothing else: all other failures count
as zero. -/
theorem weight_eq_error_iff : v.weight = .error f ↔ f = .beyondDoubles ∧ v.IsBeyond := by
  rw [← amount_eq_beyond_iff]
  unfold weight
  split
  · simp_all
  · simp_all
  · next h => simp [h, eq_comm]
  · next h => simp_all

/-- Any other value has a weight. -/
theorem exists_weight (h : ¬v.IsBeyond) : ∃ x, v.weight = .ok x := by
  cases hw : v.weight with
  | ok x => exact ⟨x, rfl⟩
  | error f => exact absurd (weight_eq_error_iff.1 hw).2 h

/-- Of the faults of a value that is to be a double, one is a bound. -/
theorem toDouble_isBound_iff : (∃ f, v.toDouble = .error f ∧ f.IsBound) ↔ v.IsBeyond := by
  rw [← toDouble_eq_beyond_iff]
  constructor
  · rintro ⟨f, hf, hbound⟩
    rcases toDouble_eq_error hf with rfl | ⟨kind, rfl⟩ | ⟨s, rfl⟩
    · exact hf
    · rcases hbound with h | h | h <;> cases h
    · rcases hbound with h | h | h <;> cases h
  · exact fun h => ⟨_, h, .inl rfl⟩

/-- An amount fails on a bound of numbers exactly if it is an integer beyond the doubles. -/
theorem amount_isBound_iff : (∃ f, v.amount = .error f ∧ f.IsBound) ↔ v.IsBeyond := by
  rw [amount, toDouble_isBound_iff, ← toDouble_eq_beyond_iff, ← amount, amount_eq_beyond_iff]

/-- What is a double already is not beyond the doubles. -/
theorem not_isBeyond_real (x : Binary64) : ¬(Value.real x).IsBeyond :=
  fun ⟨_, hn, _⟩ => nomatch hn

/-- A double is an amount. -/
theorem exists_amount_real (x : Binary64) : ∃ y, (Value.real x).amount = .ok y := by
  unfold amount orElse
  split
  · exact ⟨x, rfl⟩
  · exact ⟨.ofInt 0, rfl⟩

/-- A value that is present is an amount by itself, without the default. -/
theorem amount_of_isPresent (h : v.isPresent = true) : v.amount = v.toDouble := by
  rw [amount, orElse, if_pos h]

/-- What is absent weighs nothing. -/
theorem weight_of_not_isPresent (h : ¬v.isPresent = true) : v.weight = .ok (.zero false) := by
  rw [weight, amount, orElse, if_neg h]
  rfl

/-- A finite double has a finite weight. -/
theorem exists_weight_real {x : Binary64} (h : x.isFinite = true) :
    ∃ y, (Value.real x).weight = .ok y ∧ y.isFinite = true := by
  by_cases hp : (Value.real x).isPresent = true
  · rw [weight, amount_of_isPresent hp]
    cases x with
    | nan | infinite s => cases h
    | finite s u hu => exact ⟨_, rfl, rfl⟩
  · exact ⟨_, weight_of_not_isPresent hp, rfl⟩

/-- A value that is no number: as a double it is none, or not a number. -/
def IsGarbage (v : Value) : Prop :=
  ¬v.IsBeyond ∧ ∀ x, v.toDouble = .ok x → x = .nan

/-- It weighs nothing. -/
theorem weight_of_isGarbage (h : v.IsGarbage) : v.weight = .ok (.zero false) := by
  by_cases hp : v.isPresent = true
  · rw [weight, amount_of_isPresent hp]
    cases hd : v.toDouble with
    | ok x =>
      obtain rfl := h.2 x hd
      rfl
    | error f =>
      -- Every fault but one counts as zero, and that one is excluded.
      rcases toDouble_eq_error hd with rfl | ⟨kind, rfl⟩ | ⟨s, rfl⟩
      · exact absurd (toDouble_eq_beyond_iff.1 hd) h.1
      · rfl
      · rfl
  · exact weight_of_not_isPresent hp

/-! ### Elements -/

/-- A value that cannot be gone through is refused for its kind. -/
theorem elements_eq_error (h : v.elements = .error f) : f = .notIterable v.kind := by
  cases v with
  | list vs | text s | object fields => cases h
  | null | bool b | int n | real x => exact (Except.error.inj h).symm

/-- Only the elements of a list are objects. -/
theorem eq_list_of_elements {vs : List Value} (h : v.elements = .ok vs)
    (hmem : .object fields ∈ vs) : v = .list vs := by
  -- Characters and names are texts, so an object among the elements means a list.
  cases v with
  | list us => rw [Except.ok.inj h]
  | text s =>
    obtain rfl := Except.ok.inj h
    obtain ⟨c, _, hc⟩ := List.mem_map.1 hmem
    cases hc
  | object fs =>
    obtain rfl := Except.ok.inj h
    obtain ⟨f, _, hf⟩ := List.mem_map.1 hmem
    cases hf
  | null | bool b | int n | real x => cases h

/-! ### Values without long integers -/

/-- Where no field of an object has a long integer, a single one has none. -/
theorem hasLongInteger_of_mem {e : String × Value} (h : anyLongField fields = false)
    (he : e ∈ fields) : e.2.hasLongInteger = false := by
  induction fields with
  | nil => cases he
  | cons e' fields ih =>
    obtain ⟨n, u⟩ := e'
    rw [anyLongField, Bool.or_eq_false_iff] at h
    rcases List.mem_cons.1 he with rfl | he
    · exact h.1
    · exact ih h.2 he

/-- A list has a long integer if one of its elements has. -/
theorem anyLongInteger_iff {vs : List Value} :
    anyLongInteger vs = true ↔ ∃ v ∈ vs, v.hasLongInteger = true := by
  induction vs with
  | nil => simp [anyLongInteger]
  | cons v vs ih => simp [anyLongInteger, ih]

/-- So where the list has none, an element has none. -/
theorem hasLongInteger_of_mem_list {vs : List Value} (h : anyLongInteger vs = false)
    (hv : v ∈ vs) : v.hasLongInteger = false := by
  rw [Bool.eq_false_iff] at h ⊢
  exact fun hlong => h (anyLongInteger_iff.2 ⟨v, hv, hlong⟩)

/-- Nor does the value that is found under a name. -/
theorem hasLongInteger_of_lookup {name : String} (h : anyLongField fields = false)
    (hv : fields.lookup name = some v) : v.hasLongInteger = false := by
  obtain ⟨e, he, _, rfl⟩ := Entries.exists_mem_of_lookup hv
  exact hasLongInteger_of_mem h he

/-- Nor does the value under a name if it is null for want of the name. -/
theorem hasLongInteger_get (h : anyLongField fields = false) (name : String) :
    (get fields name).hasLongInteger = false := by
  unfold get
  cases hl : fields.lookup name with
  | none => rfl
  | some v => exact hasLongInteger_of_lookup h hl

/-- A value or its default has no long integer if neither has. -/
theorem hasLongInteger_orElse {w : Value} (hv : v.hasLongInteger = false)
    (hw : w.hasLongInteger = false) : (v.orElse w).hasLongInteger = false := by
  unfold orElse
  split
  · exact hv
  · exact hw

/-- Going through a value brings up no long integer: the elements of a list are in it, and the
others are texts. -/
theorem hasLongInteger_of_mem_elements {vs : List Value} (h : v.hasLongInteger = false)
    (hv : v.elements = .ok vs) : ∀ u ∈ vs, u.hasLongInteger = false := by
  -- The elements of a text are its characters, those of an object its names: both are texts.
  cases v with
  | list us =>
    obtain rfl := Except.ok.inj hv
    exact fun u hu => hasLongInteger_of_mem_list h hu
  | text s =>
    obtain rfl := Except.ok.inj hv
    intro u hu
    obtain ⟨c, _, rfl⟩ := List.mem_map.1 hu
    rfl
  | object fields =>
    obtain rfl := Except.ok.inj hv
    intro u hu
    obtain ⟨f, _, rfl⟩ := List.mem_map.1 hu
    rfl
  | null | bool b | int n | real x => cases hv

/-- They can be written. -/
theorem exists_written (h : v.hasLongInteger = false) : ∃ s, v.written = .ok s := by
  unfold written
  split
  · exact ⟨_, rfl⟩
  · exact exists_shown h

/-! ### Values with long integers -/

mutual

/-- A value with a long integer cannot be shown. -/
theorem shown_of_long {v : Value} (h : v.hasLongInteger = true) :
    v.shown = .error .integerTooLong := by
  -- The three functions are shown together, as they recurse into one another.
  match v with
  | .null | .bool true | .bool false | .real _ | .text _ => cases h
  | .int n =>
    rw [hasLongInteger] at h
    rw [shown, shownInt, if_pos h]
  | .list vs =>
    rw [hasLongInteger] at h
    rw [shown, shownList_of_long h]
    rfl
  | .object fields =>
    rw [hasLongInteger] at h
    rw [shown, shownFields_of_long h]
    rfl

/-- The same for the elements of a list. -/
theorem shownList_of_long {vs : List Value} (h : anyLongInteger vs = true) :
    shownList vs = .error .integerTooLong := by
  match vs with
  | [] => cases h
  | v :: vs =>
    rw [shownList]
    -- Either this element is too long itself, or it is shown and a later one is not.
    cases hv : v.hasLongInteger with
    | true =>
      rw [shown_of_long hv]
      rfl
    | false =>
      obtain ⟨s, hs⟩ := exists_shown hv
      rw [anyLongInteger, hv, Bool.false_or] at h
      rw [hs, shownList_of_long h]
      rfl

/-- The same for the fields of an object. -/
theorem shownFields_of_long {fields : List (String × Value)} (h : anyLongField fields = true) :
    shownFields fields = .error .integerTooLong := by
  match fields with
  | [] => cases h
  | (name, v) :: fields =>
    rw [shownFields]
    -- As for lists; a name is always shown.
    cases hv : v.hasLongInteger with
    | true =>
      rw [shown_of_long hv]
      rfl
    | false =>
      obtain ⟨s, hs⟩ := exists_shown hv
      rw [anyLongField, hv, Bool.false_or] at h
      rw [hs, shownFields_of_long h]
      rfl

end

/-- **Exactly the values with a long integer cannot be written.** -/
theorem written_eq_error_iff :
    v.written = .error f ↔ f = .integerTooLong ∧ v.hasLongInteger = true := by
  cases h : v.hasLongInteger with
  | false =>
    obtain ⟨s, hs⟩ := exists_written h
    simp [hs]
  | true =>
    -- A text is written without quotes, so it is written whatever it holds.
    have hlong : v.written = .error .integerTooLong := by
      cases v with
      | null | bool b | real x | text s => cases h
      | int n | list vs | object fields => exact shown_of_long h
    simp [hlong, eq_comm]

/-- A value with a long integer is not empty, so it counts as present. -/
theorem isPresent_of_long (h : v.hasLongInteger = true) : v.isPresent = true := by
  -- What is empty or zero has no digits to be too long.
  cases v with
  | null | bool b | real x | text s => cases h
  | int n =>
    rw [isPresent, decide_eq_true_iff]
    rintro rfl
    cases h
  | list vs =>
    cases vs with
    | nil => cases h
    | cons v vs => rfl
  | object fields =>
    cases fields with
    | nil => cases h
    | cons e fields => rfl

end Value
end Lottery
