/-
# What a price table is

| part of a value | in order if it is |
| --- | --- |
| the value | an object |
| a name | the word for a play type |
| an entry | an object with both sides |
| a side | no truth value, and as a double finite and not below zero |

A value in order throughout (`IsTable`) validates to the table with its names
and the doubles of its sides (`Table.Describes`), and no other value validates
(`Table.build_validates`).  What was validated is in order itself, so it
validates to itself (`Table.build_toValue`).

Validation is `build_price_table`.
-/

import Lottery.Proofs.Price.Table

namespace Lottery
namespace Price

variable {v : Value} {x y : Binary64} {e : String × Value} {r : String × Rate}

/-! ### Sides -/

/-- What was validated as a multiplier is one. -/
theorem IsMultiplier.real (h : IsMultiplier v x) : IsMultiplier (.real x) x :=
  ⟨nofun, rfl, h.isFinite, h.not_below⟩

/-- A value is an object with a multiplier on either side. -/
def HasSides (v : Value) (x y : Binary64) : Prop :=
  ∃ fields limited regular, v = .object fields ∧
    fields.lookup "limited" = some limited ∧ IsMultiplier limited x ∧
    fields.lookup "regular" = some regular ∧ IsMultiplier regular y

/-- The sides of a validated entry are in order. -/
theorem HasSides.real (h : HasSides v x y) :
    HasSides (.object [("limited", .real x), ("regular", .real y)]) x y := by
  obtain ⟨_, _, _, _, _, hx, _, hy⟩ := h
  exact ⟨_, .real x, .real y, rfl, rfl, hx.real, rfl, hy.real⟩

/-! ### Entries -/

/-- An entry in order: the word for a play type with both multipliers. -/
structure IsEntry (e : String × Value) : Prop where
  isPlayType : ∃ t : PlayType, t.name = e.1
  sides : ∃ x y, HasSides e.2 x y

/-- An entry of a table restates one of a value: it has its name and the doubles of its sides. -/
structure Restates (e : String × Value) (r : String × Rate) : Prop where
  name : r.1 = e.1
  sides : ∃ x y, HasSides e.2 x y ∧ r.2 = ⟨.real x, .real y⟩

/-- An entry validates exactly if it names a play type and its two sides are multipliers. -/
theorem entry_eq_ok_iff :
    entry e.1 e.2 = .ok r ↔ (∃ t : PlayType, t.name = e.1) ∧ Restates e r := by
  -- The name is looked at first, then the form of the entry, then its two multipliers.
  have hname : (PlayType.ofName? e.1).isNone = true ↔ ¬∃ t : PlayType, t.name = e.1 := by
    rw [Option.isNone_iff_eq_none, Option.eq_none_iff_forall_ne_some]
    simp [PlayType.ofName?_eq_some_iff]
  unfold entry
  split
  · next h => simp [hname.1 h]
  · next h =>
    rw [and_iff_right (not_not.1 fun hn => h (hname.2 hn))]
    split
    · next fields hfields =>
      constructor
      · intro he
        obtain ⟨x, hx, he⟩ := bind_eq_ok.1 he
        obtain ⟨y, hy, he⟩ := bind_eq_ok.1 he
        obtain ⟨limited, hl, hx⟩ := multiplier_eq_ok_iff.1 hx
        obtain ⟨regular, hr, hy⟩ := multiplier_eq_ok_iff.1 hy
        obtain rfl := Except.ok.inj he
        exact ⟨rfl, x, y, ⟨fields, limited, regular, hfields, hl, hx, hr, hy⟩, rfl⟩
      · rintro ⟨hsame, x, y, ⟨fields', limited, regular, hfields', hl, hx, hr, hy⟩, hrate⟩
        obtain rfl := Value.object.inj (hfields.symm.trans hfields')
        rw [multiplier_eq_ok_iff.2 ⟨limited, hl, hx⟩, multiplier_eq_ok_iff.2 ⟨regular, hr, hy⟩]
        exact congrArg Except.ok (Prod.ext hsame.symm hrate.symm)
    · next hfields =>
      refine iff_of_false nofun ?_
      rintro ⟨_, _, _, ⟨fields, _, _, hobject, _⟩, _⟩
      exact hfields fields hobject

/-- Exactly the entries in order validate. -/
theorem exists_entry_iff : (∃ r, entry e.1 e.2 = .ok r) ↔ IsEntry e := by
  constructor
  · rintro ⟨r, h⟩
    obtain ⟨hname, _, x, y, hsides, _⟩ := entry_eq_ok_iff.1 h
    exact ⟨hname, x, y, hsides⟩
  · rintro ⟨hname, x, y, hsides⟩
    exact ⟨(e.1, ⟨.real x, .real y⟩), entry_eq_ok_iff.2 ⟨hname, rfl, x, y, hsides, rfl⟩⟩

/-- A validated entry validates to itself. -/
theorem entry_validated (h : entry e.1 e.2 = .ok r) :
    entry r.1 (.object [("limited", r.2.limited), ("regular", r.2.regular)]) = .ok r := by
  obtain ⟨hname, hsame, x, y, hsides, hrate⟩ := entry_eq_ok_iff.1 h
  rw [← hsame] at hname
  rw [hrate]
  exact (entry_eq_ok_iff (e := (r.1, _))).2 ⟨hname, rfl, x, y, hsides.real, hrate⟩

/-- An entry of two doubles that are multipliers validates to itself. -/
theorem entry_real {t : PlayType} (hx : IsMultiplier (.real x) x) (hy : IsMultiplier (.real y) y) :
    entry t.name (.object [("limited", .real x), ("regular", .real y)]) =
      .ok (t.name, ⟨.real x, .real y⟩) :=
  (entry_eq_ok_iff (e := (t.name, _))).2
    ⟨⟨t, rfl⟩, rfl, x, y, ⟨_, .real x, .real y, rfl, rfl, hx, rfl, hy⟩, rfl⟩

/-! ### Tables -/

/-- A value is a price table: an object with entries in order. -/
def IsTable (v : Value) : Prop :=
  ∃ fields, v = .object fields ∧ ∀ e ∈ fields, IsEntry e

namespace Table

variable {t : Table}

/-- A table describes a value: it restates the entries of an object, in order. -/
def Describes (t : Table) (v : Value) : Prop :=
  ∃ fields, v = .object fields ∧ List.Forall₂ Restates fields t

/-- A validated table comes from an object, entry by entry. -/
theorem build_eq_ok_iff : build v = .ok t ↔
    ∃ fields, v = .object fields ∧ List.Forall₂ (fun e r => entry e.1 e.2 = .ok r) fields t := by
  cases v with
  | object fields =>
    have hmap : List.Forall₂ (fun e r => entry e.1 e.2 = .ok r) fields t ↔
        fields.map (fun e => entry e.1 e.2) = t.map .ok := by
      rw [← List.forall₂_eq_eq_eq, List.forall₂_map_left_iff, List.forall₂_map_right_iff]
    rw [build, mapM_eq_ok_iff, ← hmap]
    simp
  | null | bool b | int n | real x | text s | list vs => simp [build]

/-- **Exactly the price tables validate.** -/
theorem exists_build_iff : (∃ t, build v = .ok t) ↔ IsTable v := by
  constructor
  · rintro ⟨t, h⟩
    obtain ⟨fields, rfl, _⟩ := build_eq_ok_iff.1 h
    refine ⟨fields, rfl, fun e he => exists_entry_iff.1 ?_⟩
    obtain ⟨r, _, hr⟩ := exists_of_mapM_eq_ok h e he
    exact ⟨r, hr⟩
  · rintro ⟨fields, rfl, h⟩
    exact exists_mapM_eq_ok fun e he => exists_entry_iff.2 (h e he)

/-- What a value validates to describes it. -/
theorem describes_of_build (h : build v = .ok t) : t.Describes v := by
  obtain ⟨fields, rfl, hentries⟩ := build_eq_ok_iff.1 h
  exact ⟨fields, rfl, hentries.imp fun _ _ he => (entry_eq_ok_iff.1 he).2⟩

/-- **Validating a table once more leaves it as it is.** -/
theorem build_toValue (h : build v = .ok t) : build t.toValue = .ok t := by
  obtain ⟨fields, rfl, hentries⟩ := build_eq_ok_iff.1 h
  refine build_eq_ok_iff.2 ⟨_, rfl, ?_⟩
  rw [List.forall₂_map_left_iff, List.forall₂_same]
  intro r hr
  obtain ⟨e, _, he⟩ := (mem_iff_of_mapM_eq_ok h).1 hr
  exact entry_validated he

/-- The reference table validates to itself. -/
theorem build_reference : build reference.toValue = .ok reference := by
  -- The reference multipliers are whole, so being finite and not negative is computed.
  have hwhole : ∀ n ∈ [50, 80, 500, 800, 900, 1200, 10000, (15000 : Int)],
      IsMultiplier (.real (.ofInt n)) (.ofInt n) := by
    intro n hn
    have h : ∀ n ∈ [50, 80, 500, 800, 900, 1200, 10000, (15000 : Int)],
        (Binary64.ofInt n).isFinite = true ∧ (Binary64.ofInt n).lt (.zero false) = false := by
      decide +kernel
    exact ⟨nofun, rfl, (h n hn).1, (h n hn).2⟩
  refine build_eq_ok_iff.2 ⟨_, rfl, ?_⟩
  rw [List.forall₂_map_left_iff, List.forall₂_same]
  simp only [reference, List.forall_mem_cons]
  exact ⟨entry_real (hwhole 50 (by decide)) (hwhole 80 (by decide)),
    entry_real (hwhole 50 (by decide)) (hwhole 80 (by decide)),
    entry_real (hwhole 500 (by decide)) (hwhole 800 (by decide)),
    entry_real (hwhole 900 (by decide)) (hwhole 1200 (by decide)),
    entry_real (hwhole 10000 (by decide)) (hwhole 15000 (by decide)), nofun⟩

/-- **Validation is exact and stable:** the price tables validate, and nothing else does; what one
validates to has its names and the doubles of its sides, and validates to itself. -/
theorem build_validates (v : Value) :
    ((∃ t, build v = .ok t) ↔ IsTable v) ∧
      (∀ t, build v = .ok t → t.Describes v ∧ build t.toValue = .ok t) ∧
      ((∃ f, build v = .error f) ↔ ¬IsTable v) := by
  refine ⟨exists_build_iff, fun t h => ⟨describes_of_build h, build_toValue h⟩, ?_⟩
  rw [← exists_build_iff]
  cases build v <;> simp

/-- Prices with a text and a negative zero as multipliers, and with a field that is no side. -/
def textPrices : Value :=
  .object [("fijo",
    .object [("limited", .text " 1_0e-1 "), ("since", .null), ("regular", .real (.zero true))])]

/-- They are the table with 1 and the negative zero, which validates to itself. -/
theorem build_validates_textPrices :
    build textPrices = .ok [("fijo", ⟨.real (.ofInt 1), .real (.zero true)⟩)] ∧
    build (toValue [("fijo", ⟨.real (.ofInt 1), .real (.zero true)⟩)]) =
      .ok [("fijo", ⟨.real (.ofInt 1), .real (.zero true)⟩)] := by
  -- One multiplier is a text, the other a negative zero, which is not below zero.
  have hlimited : IsMultiplier (.text " 1_0e-1 ") (.ofInt 1) :=
    ⟨nofun, by decide +kernel, by decide +kernel, by decide +kernel⟩
  have hregular : IsMultiplier (.real (.zero true)) (.zero true) :=
    ⟨nofun, rfl, rfl, by decide +kernel⟩
  have hbuild : build textPrices = .ok [("fijo", ⟨.real (.ofInt 1), .real (.zero true)⟩)] := by
    refine build_eq_ok_iff.2 ⟨_, rfl, .cons (entry_eq_ok_iff.2 ?_) .nil⟩
    exact ⟨⟨.fijo, rfl⟩, rfl, _, _, ⟨_, _, _, rfl, rfl, hlimited, rfl, hregular⟩, rfl⟩
  exact ⟨hbuild, ((build_validates textPrices).2.1 _ hbuild).2⟩

end Table
end Price
end Lottery
