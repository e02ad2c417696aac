/-
# A reader with a limit reads no long integer

Digits write a number of no more digits (`Text.digitCount_toNat_le`), so a reader
that refuses integers of more than `Text.maxDigits` digits gives values that hold
no long integer (`hasLongInteger_read`), however deep it reads.  These can be
shown, whatever else they hold.
-/

import Lottery.Json
import Lottery.Proofs.Computations
import Lottery.Proofs.Decimal.Literal
import Lottery.Value.Written
import Mathlib.Data.List.TakeWhile

namespace Lottery

namespace Text

/-- Digits write a number of no more digits. -/
theorem digitCount_toNat_le {cs : List Char} (h : ∀ c ∈ cs, c.isDigit = true) (hne : cs ≠ []) :
    digitCount (toNat cs) ≤ cs.length :=
  (Nat.length_toDigits_le_iff (by decide) (List.length_pos_iff.2 hne)).2 (toNat_lt h)

end Text

namespace Json

/-- The fields of an object, as they are read, hold no long integer. -/
def AreShort (fields : List (List Nat × Value)) : Prop :=
  Value.anyLongField (named fields) = false

/-- Before any field is read there is no long integer. -/
theorem areShort_nil : AreShort [] := rfl

/-- A field with a value that holds none keeps it so, whatever its name. -/
theorem AreShort.put {name : List Nat} {v : Value} {fields : List (List Nat × Value)}
    (hf : AreShort fields) (hv : v.hasLongInteger = false) :
    AreShort (Entries.put name v fields) := by
  unfold AreShort named at hf ⊢
  -- Along the entries, as the value is set at the place of its name or at the end.
  induction fields with
  | nil =>
    rw [Entries.put, List.map_cons, Value.anyLongField, hv]
    rfl
  | cons f fields ih =>
    rw [List.map_cons, Value.anyLongField, Bool.or_eq_false_iff] at hf
    rw [Entries.put]
    split
    · rw [List.map_cons, Value.anyLongField, hv, hf.2]
      rfl
    · rw [List.map_cons, Value.anyLongField, hf.1, ih hf.2]
      rfl

/-- The whole part of a number is made of digits. -/
theorem wholePart_digits (cs : List Char) : ∀ c ∈ wholePart cs, c.isDigit = true := by
  unfold wholePart
  split
  · simp
  · exact fun c hc => List.mem_takeWhile_imp hc

/-- A number that is read has no more digits than the limit allows. -/
theorem hasLongInteger_number? {cs rest : List Char} {v : Value}
    (h : number? (some Text.maxDigits) cs = some (v, rest)) : v.hasLongInteger = false := by
  unfold number? at h
  dsimp only at h
  rw [Option.ite_none_left_eq_some] at h
  obtain ⟨hne, h⟩ := h
  -- A number without point and exponent is an integer, and the reader has counted its digits.
  split at h
  · rw [Option.ite_none_left_eq_some] at h
    obtain ⟨hle, h⟩ := h
    have hdigits := Text.digitCount_toNat_le (wholePart_digits _)
      (fun he => hne (List.isEmpty_iff.2 he))
    obtain ⟨rfl, _⟩ := Prod.mk.inj (Option.some.inj h)
    have hnat : ∀ (b : Bool) (n : Nat), (if b then (n : Int) else -n).natAbs = n := by
      intro b n
      cases b <;> simp
    rw [Value.hasLongInteger, hnat, Text.isLong, decide_eq_false_iff_not]
    simp only [Option.any_some, decide_eq_true_eq] at hle
    omega
  · obtain ⟨d, _, hd⟩ := Option.map_eq_some_iff.1 h
    obtain ⟨rfl, _⟩ := Prod.mk.inj hd
    rfl

/-- With this fuel, no long integer is read. -/
structure ReadsShort (fuel : Nat) : Prop where
  value : ∀ {room cs v rest}, value (some Text.maxDigits) fuel room cs = .ok (v, rest) →
    v.hasLongInteger = false
  elements : ∀ {room cs vs rest}, elements (some Text.maxDigits) fuel room cs = .ok (vs, rest) →
    Value.anyLongInteger vs = false
  members : ∀ {room fields cs fields' rest}, AreShort fields →
    members (some Text.maxDigits) fuel room fields cs = .ok (fields', rest) → AreShort fields'

/-- What was read is there; that there is nothing is a failure. -/
theorem orMalformed_eq_ok {α : Type} {o : Option α} {a : α} (h : orMalformed o = .ok a) :
    o = some a := by
  cases o with
  | none => cases h
  | some b => exact congrArg some (Except.ok.inj h)

section Step

variable {fuel room : Nat} {cs rest : List Char} (ih : ReadsShort fuel)
include ih

/-- A value that was read has no long integer, if values with less fuel have none. -/
theorem value_short {v : Value}
    (h : value (some Text.maxDigits) (fuel + 1) room cs = .ok (v, rest)) :
    v.hasLongInteger = false := by
  -- One case for each first character; only lists, objects and numbers hold anything to be
  -- checked.
  unfold value at h
  split at h
  case h_1 =>
    obtain ⟨r, _, hv⟩ := map_eq_ok.1 h
    obtain ⟨rfl, _⟩ := Prod.mk.inj hv
    rfl
  case h_2 =>
    split at h
    · cases h
    · obtain ⟨rfl, _⟩ := Prod.mk.inj (Except.ok.inj h)
      rfl
    · obtain ⟨r, hr, hv⟩ := map_eq_ok.1 h
      obtain ⟨rfl, _⟩ := Prod.mk.inj hv
      exact ih.elements hr
  case h_3 =>
    split at h
    · cases h
    · obtain ⟨rfl, _⟩ := Prod.mk.inj (Except.ok.inj h)
      rfl
    · obtain ⟨r, hr, hv⟩ := map_eq_ok.1 h
      obtain ⟨rfl, _⟩ := Prod.mk.inj hv
      exact ih.members areShort_nil hr
  case h_10 => exact hasLongInteger_number? (orMalformed_eq_ok h)
  all_goals
    obtain ⟨rfl, _⟩ := Prod.mk.inj (Except.ok.inj h)
    rfl

/-- Nor have the elements of a list, -/
theorem elements_short {vs : List Value}
    (h : elements (some Text.maxDigits) (fuel + 1) room cs = .ok (vs, rest)) :
    Value.anyLongInteger vs = false := by
  rw [elements] at h
  obtain ⟨⟨v, more⟩, hv, h⟩ := bind_eq_ok.1 h
  have hshort := ih.value hv
  dsimp only at h
  -- Behind an element stands the end, or a comma and the others, which are short by induction.
  split at h
  · obtain ⟨rfl, _⟩ := Prod.mk.inj (Except.ok.inj h)
    rw [Value.anyLongInteger, hshort]
    rfl
  · obtain ⟨⟨us, _⟩, hus, h⟩ := bind_eq_ok.1 h
    obtain ⟨rfl, _⟩ := Prod.mk.inj (Except.ok.inj h)
    rw [Value.anyLongInteger, hshort, ih.elements hus]
    rfl
  · cases h

/-- nor the fields of an object, old and new. -/
theorem members_short {fields fields' : List (List Nat × Value)} (hf : AreShort fields)
    (h : members (some Text.maxDigits) (fuel + 1) room fields cs = .ok (fields', rest)) :
    AreShort fields' := by
  unfold members at h
  split at h
  · obtain ⟨⟨name, more⟩, _, h⟩ := bind_eq_ok.1 h
    dsimp only at h
    split at h
    · obtain ⟨⟨v, more⟩, hv, h⟩ := bind_eq_ok.1 h
      -- The fields read so far stay short with one more, and are handed on as they are.
      have hput : AreShort (Entries.put name v fields) := hf.put (ih.value hv)
      dsimp only at h
      split at h
      · obtain ⟨rfl, _⟩ := Prod.mk.inj (Except.ok.inj h)
        exact hput
      · exact ih.members hput h
      · cases h
    · cases h
  · cases h

end Step

/-- **However much fuel there is,** by induction on it: each of the three readers spends one on the
way to the others. -/
theorem readsShort (fuel : Nat) : ReadsShort fuel := by
  -- Values, elements and fields are read by one recursion, so they are shown together.
  induction fuel with
  | zero =>
    constructor
    · intro room cs v rest h
      cases h
    · intro room cs vs rest h
      cases h
    · intro room fields cs fields' rest _ h
      cases h
  | succ fuel ih => exact ⟨value_short ih, elements_short ih, members_short ih⟩

/-- **What is read holds no long integer,** so that it can be shown. -/
theorem hasLongInteger_read {depth : Nat} {cs : List Char} {v : Value}
    (h : read (.ofDepth depth) cs = .ok v) : v.hasLongInteger = false := by
  rw [read] at h
  obtain ⟨⟨u, rest⟩, hu, h⟩ := bind_eq_ok.1 h
  dsimp only at h
  split at h
  · obtain rfl := Except.ok.inj h
    exact (readsShort _).value hu
  · cases h

end Json
end Lottery
