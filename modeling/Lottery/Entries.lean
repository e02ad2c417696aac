/-
# Entries by key

Entries pair keys with what is known for them, and stand in the order in which
their keys first came.  `List.lookup` finds the entry of a key; `Entries.put`
sets one, at the place of its key or at the end.  Keys are compared by an
equality that is symmetric and transitive, and a key that is not equal to
itself is never found: `lookup_put` says what is found after an entry is set.
-/

namespace Lottery

/-- Entries in the order in which their keys first came. -/
abbrev Entries (κ α : Type) := List (κ × α)

namespace Entries

variable {κ α : Type} [BEq κ]

/-- The entries with that of one key set; the first spelling of the key is
kept. -/
def put (key : κ) (x : α) : Entries κ α → Entries κ α
  | [] => [(key, x)]
  | e :: es => if e.1 == key then (e.1, x) :: es else e :: put key x es

/-- **After an entry is set, the keys equal to its key have its value and all
others what they had.** -/
theorem lookup_put [PartialEquivBEq κ] (key other : κ) (x : α) (es : Entries κ α) :
    (put key x es).lookup other = if other == key then some x else es.lookup other := by
  induction es with
  | nil =>
    rw [put, List.lookup_cons]
    cases other == key <;> rfl
  | cons e es ih =>
    obtain ⟨k, y⟩ := e
    by_cases hk : (k == key) = true
    · have h : (other == k) = (other == key) := by
        rw [Bool.eq_iff_iff]
        exact ⟨fun h => BEq.trans h hk, fun h => BEq.trans h (BEq.symm hk)⟩
      rw [put, if_pos hk, List.lookup_cons, List.lookup_cons, h]
      cases other == key <;> rfl
    · rw [put, if_neg hk, List.lookup_cons, List.lookup_cons, ih]
      by_cases ho : (other == key) = true
      · have h : (other == k) = false := by
          rw [Bool.eq_false_iff]
          exact fun h => hk (BEq.trans (BEq.symm h) ho)
        simp [ho, h]
      · simp [ho]

/-- Equal keys have one value. -/
theorem lookup_congr [PartialEquivBEq κ] {key other : κ} (h : (key == other) = true)
    (es : Entries κ α) : es.lookup key = es.lookup other := by
  induction es with
  | nil => rfl
  | cons e es ih =>
    have he : (key == e.1) = (other == e.1) := by
      rw [Bool.eq_iff_iff]
      exact ⟨fun hk => BEq.trans (BEq.symm h) hk, fun ho => BEq.trans h ho⟩
    rw [List.lookup_cons, List.lookup_cons, he, ih]

/-- What is found for a key is the value of an entry. -/
theorem exists_mem_of_lookup {key : κ} {x : α} {es : Entries κ α}
    (h : es.lookup key = some x) : ∃ e ∈ es, (key == e.1) = true ∧ e.2 = x := by
  rw [List.lookup_eq_findSome?] at h
  obtain ⟨e, he, h⟩ := List.exists_of_findSome?_eq_some h
  obtain ⟨hkey, hx⟩ := Option.ite_none_right_eq_some.1 h
  exact ⟨e, he, hkey, Option.some.inj hx⟩

/-- Setting an entry brings in no key but its own. -/
theorem mem_keys_put {key k : κ} {x : α} {es : Entries κ α}
    (h : k ∈ (put key x es).map Prod.fst) : k = key ∨ k ∈ es.map Prod.fst := by
  induction es with
  | nil => exact .inl (List.mem_singleton.1 h)
  | cons e es ih =>
    rw [put] at h
    split at h
    · exact .inr h
    · rcases List.mem_cons.1 h with rfl | h
      · exact .inr List.mem_cons_self
      · exact (ih h).imp_right (List.mem_cons_of_mem _)

/-- No key stands twice. -/
def Distinct (es : Entries κ α) : Prop :=
  es.Pairwise fun e f => (e.1 == f.1) = false

/-- Keys are compared in pairs. -/
instance instDecidableDistinct (es : Entries κ α) : Decidable es.Distinct :=
  inferInstanceAs (Decidable (es.Pairwise fun e f => (e.1 == f.1) = false))

/-- Dropping entries by their values leaves what is found for a key, unless that is dropped. -/
theorem lookup_filter [PartialEquivBEq κ] {es : Entries κ α} (h : es.Distinct) (key : κ)
    (p : α → Bool) :
    (es.filter fun e => p e.2).lookup key = (es.lookup key).filter p := by
  induction es with
  | nil => rfl
  | cons e es ih =>
    obtain ⟨k, x⟩ := e
    obtain ⟨hk, hes⟩ := List.pairwise_cons.1 h
    have hnone : (key == k) = true → es.lookup key = none := by
      intro hkey
      rw [List.lookup_eq_none_iff]
      intro e he
      rw [bne, BEq.congr_left hkey, hk e he]
      rfl
    rw [List.filter_cons, List.lookup_cons]
    by_cases hkey : (key == k) = true
    · by_cases hx : p x = true
      · rw [if_pos hx, List.lookup_cons, hkey, Option.filter_some, if_pos hx]
      · rw [if_neg hx, ih hes, hkey, hnone hkey, Option.filter_some, if_neg hx]
        rfl
    · rw [Bool.eq_false_iff.2 hkey, ← ih hes]
      by_cases hx : p x = true
      · rw [if_pos hx, List.lookup_cons, Bool.eq_false_iff.2 hkey]
      · rw [if_neg hx]

end Entries
end Lottery
