/-
# What keeps a value from being a price table

A value without long integers, as a reader with a limit gives it, is a table or
is refused with what is wrong with it, one case aside (`build_eq_error`):

| first fault | refused with |
| --- | --- |
| an integer beyond the doubles as a multiplier | `beyondDoubles` |
| any other | what is wrong with the table |

In the first case nothing is said of the table (`build_of_oversizedFirst`).  A
multiplier in order is finite as a double and not below zero
(`multiplier_eq_ok_iff`), so a table has finite ones (`exists_real_of_build`).

The table is built by `build_price_table`, whose sides are read by `_multiplier`.
-/

import Lottery.Price.Table
import Lottery.Proofs.Value

namespace Lottery

namespace Price

variable {playType side : String} {fields : List (String × Value)} {v : Value} {f : Fault}
  {x : Binary64} {e : String × Value}

/-- A multiplier is refused with what is wrong with it, or it is an integer beyond the doubles. -/
theorem multiplier_eq_error (h : Value.anyLongField fields = false)
    (hm : multiplier playType fields side = .error f) :
    (∃ p, f = .prices p) ∨
      f = .beyondDoubles ∧ ∃ v, fields.lookup side = some v ∧ v.IsBeyond := by
  rw [multiplier] at hm
  split at hm
  · exact .inl ⟨_, (Except.error.inj hm).symm⟩
  · next v hv =>
    obtain ⟨before, after, rfl, _⟩ := List.lookup_eq_some_iff.1 hv
    -- The faults of a table quote the value, which a value without long integers allows.
    obtain ⟨s, hs⟩ := Value.exists_shown
      (Value.hasLongInteger_of_mem h (List.mem_append_right before List.mem_cons_self))
    dsimp only at hs
    rw [hs] at hm
    have hrefused : ∀ {p : PriceError}, (.error (.prices p) : Except Fault Binary64) = .error f →
        ∃ p, f = .prices p := fun hp => ⟨_, (Except.error.inj hp).symm⟩
    dsimp only at hm
    split at hm
    · exact .inl (hrefused hm)
    · split at hm
      · split at hm
        · cases hm
        · exact .inl (hrefused hm)
      · next hd =>
        exact .inr ⟨(Except.error.inj hm).symm, v, hv, Value.toDouble_eq_beyond_iff.1 hd⟩
      · exact .inl (hrefused hm)

/-- An integer beyond the doubles is not refused as a multiplier: it breaks the table. -/
theorem multiplier_of_isBeyond (hv : fields.lookup side = some v) (h : v.IsBeyond) :
    multiplier playType fields side = .error .beyondDoubles := by
  have hd := Value.toDouble_eq_beyond_iff.2 h
  obtain ⟨n, rfl, _⟩ := h
  rw [multiplier, hv]
  dsimp only
  rw [hd]

/-- A value is a multiplier: as a double it is finite and not below zero, and it is not a truth
value. -/
structure IsMultiplier (v : Value) (x : Binary64) : Prop where
  not_bool : ∀ b, v ≠ .bool b
  toDouble : v.toDouble = .ok x
  isFinite : x.isFinite = true
  not_below : x.lt (.zero false) = false

/-- The sides of an entry that are in order are its multipliers. -/
theorem multiplier_eq_ok_iff : multiplier playType fields side = .ok x ↔
    ∃ v, fields.lookup side = some v ∧ IsMultiplier v x := by
  -- A refusal is never a double, whether or not the value can be quoted.
  have hrefused : ∀ v : Value, (do
      let shown ← v.shown
      .error (.prices (.invalidRate side playType shown)) : Except Fault Binary64) ≠ .ok x := by
    intro v hv
    obtain ⟨_, _, hv⟩ := bind_eq_ok.1 hv
    cases hv
  rw [multiplier]
  cases hl : fields.lookup side with
  | none => simp
  | some v =>
    dsimp only
    constructor
    · intro h
      refine ⟨v, rfl, ?_⟩
      split at h
      · exact absurd h (hrefused _)
      · next hbool =>
        split at h
        · next y hd =>
          split at h
          · next hy =>
            obtain rfl := Except.ok.inj h
            rw [Bool.and_eq_true_iff, Bool.not_eq_true'] at hy
            exact ⟨hbool, hd, hy.1, hy.2⟩
          · exact absurd h (hrefused _)
        · cases h
        · exact absurd h (hrefused _)
    · rintro ⟨w, hw, hbool, hd, hfinite, hbelow⟩
      obtain rfl := Option.some.inj hw
      split
      · exact absurd rfl (hbool _)
      · rw [hd]
        dsimp only
        rw [hfinite, hbelow]
        rfl

/-- An entry whose limited multiplier is beyond the doubles, or whose regular one is and the other
is in order. -/
structure IsOversized (e : String × Value) : Prop where
  isPlayType : (PlayType.ofName? e.1).isNone = false
  exists_beyond : ∃ fields v, e.2 = .object fields ∧ v.IsBeyond ∧
    (fields.lookup "limited" = some v ∨
      (∃ x, multiplier e.1 fields "limited" = .ok x) ∧ fields.lookup "regular" = some v)

/-- An entry is refused with an explanation, or it is oversized. -/
theorem entry_eq_error (h : e.2.hasLongInteger = false) (he : entry e.1 e.2 = .error f) :
    (∃ p, f = .prices p) ∨ f = .beyondDoubles ∧ IsOversized e := by
  unfold entry at he
  split at he
  · exact .inl ⟨_, (Except.error.inj he).symm⟩
  · next hname =>
    have hname' := Bool.eq_false_iff.2 hname
    split at he
    · next fields hfields =>
      have hlong : Value.anyLongField fields = false := by
        rw [hfields, Value.hasLongInteger] at h
        exact h
      -- The limited multiplier is read before the regular one, which counts only if the first is
      -- in order.
      cases hl : multiplier e.1 fields "limited" with
      | error f' =>
        rw [hl] at he
        obtain rfl : f' = f := Except.error.inj he
        rcases multiplier_eq_error hlong hl with hp | ⟨rfl, v, hv, hbeyond⟩
        · exact .inl hp
        · exact .inr ⟨rfl, hname', fields, v, hfields, hbeyond, .inl hv⟩
      | ok x =>
        rw [hl] at he
        cases hr : multiplier e.1 fields "regular" with
        | error f' =>
          rw [hr] at he
          obtain rfl : f' = f := Except.error.inj he
          rcases multiplier_eq_error hlong hr with hp | ⟨rfl, v, hv, hbeyond⟩
          · exact .inl hp
          · exact .inr ⟨rfl, hname', fields, v, hfields, hbeyond, .inr ⟨⟨x, hl⟩, hv⟩⟩
        | ok y =>
          rw [hr] at he
          cases he
    · exact .inl ⟨_, (Except.error.inj he).symm⟩

/-- An oversized entry breaks the table. -/
theorem entry_of_isOversized (h : IsOversized e) : entry e.1 e.2 = .error .beyondDoubles := by
  obtain ⟨hname, fields, v, hfields, hbeyond, hv⟩ := h
  unfold entry
  rw [hname, if_neg Bool.false_ne_true, hfields]
  dsimp only
  rcases hv with hv | ⟨⟨x, hx⟩, hv⟩
  · rw [multiplier_of_isBeyond hv hbeyond]
    rfl
  · rw [hx, multiplier_of_isBeyond hv hbeyond]
    rfl

/-- The first entry that is not in order is oversized. -/
def OversizedFirst (v : Value) : Prop :=
  ∃ before e after, v = .object (before ++ e :: after) ∧
    (∀ b ∈ before, ∃ r, entry b.1 b.2 = .ok r) ∧ IsOversized e

namespace Table

/-- **A value that is no table is refused with what is wrong with it,** unless its first fault is an
integer beyond the doubles. -/
theorem build_eq_error (h : v.hasLongInteger = false) (hb : build v = .error f) :
    (∃ p, f = .prices p) ∨ f = .beyondDoubles ∧ OversizedFirst v := by
  cases v with
  | object fields =>
    -- The first entry that fails decides, whatever comes behind it.
    obtain ⟨before, e, after, rfl, hbefore, he⟩ := mapM_eq_error_iff.1 hb
    rw [Value.hasLongInteger] at h
    have hlong := Value.hasLongInteger_of_mem h (List.mem_append_right before List.mem_cons_self)
    rcases entry_eq_error hlong he with hp | ⟨rfl, hover⟩
    · exact .inl hp
    · exact .inr ⟨rfl, before, e, after, rfl, hbefore, hover⟩
  | null | bool b | int n | real x | text s | list vs => exact .inl ⟨_, (Except.error.inj hb).symm⟩

/-- **A table breaks if the first entry that is not in order is oversized.** -/
theorem build_of_oversizedFirst (h : OversizedFirst v) : build v = .error .beyondDoubles := by
  obtain ⟨before, e, after, rfl, hbefore, he⟩ := h
  exact mapM_eq_error_iff.2 ⟨before, e, after, rfl, hbefore, entry_of_isOversized he⟩

/-- No multiplier of the table is an integer beyond the doubles. -/
def WithinDoubles (t : Table) : Prop :=
  ∀ e ∈ t, ¬e.2.limited.IsBeyond ∧ ¬e.2.regular.IsBeyond

variable {t : Table}

/-- The multipliers that are found in a table within the doubles are so, and zero is where none are
found. -/
theorem WithinDoubles.rate (h : t.WithinDoubles) (name : String) :
    ¬(t.rate name).limited.IsBeyond ∧ ¬(t.rate name).regular.IsBeyond := by
  unfold Table.rate
  cases hl : t.lookup name with
  | none =>
    have hzero : ¬(Value.int 0).IsBeyond := fun h => nomatch h.isPresent
    exact ⟨hzero, hzero⟩
  | some r =>
    obtain ⟨e, he, _, rfl⟩ := Entries.exists_mem_of_lookup hl
    exact h e he

/-- What was validated has finite multipliers. -/
theorem exists_real_of_build (h : build v = .ok t) {e : String × Rate} (he : e ∈ t) :
    ∃ x y, e.2 = ⟨.real x, .real y⟩ ∧ x.isFinite = true ∧ y.isFinite = true := by
  cases v with
  | object fields =>
    -- Each rate comes from an entry of the object, and its parts from two multipliers.
    obtain ⟨f, _, hf⟩ := (mem_iff_of_mapM_eq_ok h).1 he
    unfold entry at hf
    split at hf
    · cases hf
    · split at hf
      · obtain ⟨x, hx, hf⟩ := bind_eq_ok.1 hf
        obtain ⟨y, hy, hf⟩ := bind_eq_ok.1 hf
        obtain rfl := Except.ok.inj hf
        obtain ⟨_, _, hx⟩ := multiplier_eq_ok_iff.1 hx
        obtain ⟨_, _, hy⟩ := multiplier_eq_ok_iff.1 hy
        exact ⟨x, y, rfl, hx.isFinite, hy.isFinite⟩
      · cases hf
  | null | bool b | int n | real x | text s | list vs => cases h

/-- So it is within the doubles. -/
theorem withinDoubles_build (h : build v = .ok t) : t.WithinDoubles := by
  intro e he
  obtain ⟨x, y, hr, _, _⟩ := exists_real_of_build h he
  rw [hr]
  exact ⟨Value.not_isBeyond_real x, Value.not_isBeyond_real y⟩

/-- The multipliers of a play type are finite, also if the table does not have it. -/
theorem exists_weight_rate (h : build v = .ok t) (name : String) :
    ∃ onLimited onOther, (t.rate name).limited.weight = .ok onLimited ∧
      (t.rate name).regular.weight = .ok onOther ∧
      onLimited.isFinite = true ∧ onOther.isFinite = true := by
  unfold Table.rate
  -- A play type without an entry pays nothing.
  cases hl : t.lookup name with
  | none => exact ⟨.ofInt 0, .ofInt 0, by decide +kernel⟩
  | some r =>
    obtain ⟨e, he, _, rfl⟩ := Entries.exists_mem_of_lookup hl
    obtain ⟨x, y, hr, hx, hy⟩ := exists_real_of_build h he
    obtain ⟨onLimited, hlimited, hfinite⟩ := Value.exists_weight_real hx
    obtain ⟨onOther, hother, hfinite'⟩ := Value.exists_weight_real hy
    rw [Option.getD_some, hr]
    exact ⟨onLimited, onOther, hlimited, hother, hfinite, hfinite'⟩

/-- The reference table is within the doubles. -/
theorem withinDoubles_reference : reference.WithinDoubles := by
  unfold WithinDoubles reference
  simp [Value.not_isBeyond_real]

end Table
end Price
end Lottery
