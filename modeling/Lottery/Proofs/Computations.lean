/-
# Computations on lists that may fail

What `mapM` and `foldlM` give, for computations that fail with an error: `mapM`
succeeds if every element does, with their results in order (`mapM_eq_ok`), and
only then (`mapM_eq_ok_iff`, `exists_of_mapM_eq_ok`); else it fails with the first
error (`mapM_eq_error_iff`).  Which results there are does not depend on the order
of the elements, nor on how often each of them stands in the list
(`map_mapM_eq_of_same`).
-/

import Lottery.Fault
import Mathlib.Data.List.Forall2

namespace Lottery

variable {α β γ δ ε : Type} {f : α → Except ε β} {l : List α}

/-- What is made of a result is made of one that there is. -/
theorem map_eq_ok {x : Except ε α} {g : α → β} {b : β} :
    x.map g = .ok b ↔ ∃ a, x = .ok a ∧ g a = b := by
  cases x with
  | error e =>
    constructor
    · intro h
      cases h
    · rintro ⟨a, ha, _⟩
      cases ha
  | ok a =>
    constructor
    · exact fun h => ⟨a, rfl, Except.ok.inj h⟩
    · rintro ⟨a', ha, hb⟩
      rw [Except.ok.inj ha, ← hb]
      rfl

/-- What is made of the error of two steps is made of the error of each. -/
theorem mapError_bind {ε' : Type} (f : ε → ε') (x : Except ε α) (k : α → Except ε β) :
    (x >>= k).mapError f = x.mapError f >>= fun a => (k a).mapError f := by
  cases x <;> rfl

/-- Where each element succeeds, all do, with the results in order. -/
theorem mapM_eq_ok {g : α → β} (h : ∀ a ∈ l, f a = .ok (g a)) : l.mapM f = .ok (l.map g) := by
  induction l with
  | nil => rfl
  | cons a l ih =>
    rw [List.mapM_cons, h a List.mem_cons_self, ih fun b hb => h b (List.mem_cons_of_mem a hb)]
    rfl

/-- Where all succeed, each does, with one of the results. -/
theorem exists_of_mapM_eq_ok {bs : List β} (h : l.mapM f = .ok bs) :
    ∀ a ∈ l, ∃ b ∈ bs, f a = .ok b := by
  -- The results are those of the tail behind one more, so they vary in the induction.
  induction l generalizing bs with
  | nil => exact fun a ha => absurd ha List.not_mem_nil
  | cons c l ih =>
    rw [List.mapM_cons] at h
    obtain ⟨b, hb, h⟩ := bind_eq_ok.1 h
    obtain ⟨bs', hbs, h⟩ := bind_eq_ok.1 h
    obtain rfl := Except.ok.inj h
    intro a ha
    rcases List.mem_cons.1 ha with rfl | ha
    · exact ⟨b, List.mem_cons_self, hb⟩
    · obtain ⟨b', hb', hf⟩ := ih hbs a ha
      exact ⟨b', List.mem_cons_of_mem b hb', hf⟩

/-- **All succeed exactly if each one does,** with the results in order. -/
theorem mapM_eq_ok_iff {bs : List β} : l.mapM f = .ok bs ↔ l.map f = bs.map Except.ok := by
  -- Element by element, the results varying with the list.
  induction l generalizing bs with
  | nil =>
    rw [List.mapM_nil, List.map_nil, eq_comm (a := []), List.map_eq_nil_iff]
    exact ⟨fun h => (Except.ok.inj h).symm, fun h => h ▸ rfl⟩
  | cons a l ih =>
    rw [List.mapM_cons, List.map_cons, bind_eq_ok]
    constructor
    · rintro ⟨b, hb, h⟩
      obtain ⟨bs', hbs, h⟩ := bind_eq_ok.1 h
      obtain rfl := Except.ok.inj h
      rw [List.map_cons, hb, ih.1 hbs]
    · intro h
      obtain ⟨b, bs', rfl, hb, hbs⟩ := List.map_eq_cons_iff.1 h.symm
      exact ⟨b, hb.symm, bind_eq_ok.2 ⟨bs', ih.2 hbs.symm, rfl⟩⟩

/-- What stands at a place has its result there. -/
theorem exists_getElem?_of_mapM_eq_ok {bs : List β} (h : l.mapM f = .ok bs) {i : Nat} {a : α}
    (ha : l[i]? = some a) : ∃ b, bs[i]? = some b ∧ f a = .ok b := by
  have hi : (l.map f)[i]? = (bs.map Except.ok)[i]? := by rw [mapM_eq_ok_iff.1 h]
  rw [List.getElem?_map, List.getElem?_map, ha, Option.map_some] at hi
  obtain ⟨b, hb, hf⟩ := Option.map_eq_some_iff.1 hi.symm
  exact ⟨b, hb, hf.symm⟩

/-- There is one result for each element. -/
theorem length_of_mapM_eq_ok {bs : List β} (h : l.mapM f = .ok bs) : bs.length = l.length := by
  have hlen := congrArg List.length (mapM_eq_ok_iff.1 h)
  rw [List.length_map, List.length_map] at hlen
  exact hlen.symm

/-- What each result shares with its element, all results share with all elements, in order. -/
theorem map_eq_map_of_mapM_eq_ok {bs : List β} {g : β → γ} {g' : α → γ} (h : l.mapM f = .ok bs)
    (hg : ∀ a b, f a = .ok b → g b = g' a) : bs.map g = l.map g' := by
  induction l generalizing bs with
  | nil =>
    obtain rfl := Except.ok.inj h
    rfl
  | cons a l ih =>
    rw [List.mapM_cons] at h
    obtain ⟨b, hb, h⟩ := bind_eq_ok.1 h
    obtain ⟨bs', hbs, h⟩ := bind_eq_ok.1 h
    obtain rfl := Except.ok.inj h
    rw [List.map_cons, List.map_cons, hg a b hb, ih hbs]

/-- Two computations that are related on each element give related results, in order. -/
theorem forall₂_of_mapM_eq_ok {g : α → Except ε γ} {bs : List β} {cs : List γ}
    {R : β → γ → Prop} (hf : l.mapM f = .ok bs) (hg : l.mapM g = .ok cs)
    (h : ∀ a ∈ l, ∀ b c, f a = .ok b → g a = .ok c → R b c) : List.Forall₂ R bs cs := by
  -- Both lists of results are as long as `l`, so one induction goes along all three.
  induction l generalizing bs cs with
  | nil =>
    obtain rfl := Except.ok.inj hf
    obtain rfl := Except.ok.inj hg
    exact .nil
  | cons a l ih =>
    rw [List.mapM_cons] at hf hg
    obtain ⟨b, hb, hf⟩ := bind_eq_ok.1 hf
    obtain ⟨bs', hbs, hf⟩ := bind_eq_ok.1 hf
    obtain ⟨c, hc, hg⟩ := bind_eq_ok.1 hg
    obtain ⟨cs', hcs, hg⟩ := bind_eq_ok.1 hg
    obtain rfl := Except.ok.inj hf
    obtain rfl := Except.ok.inj hg
    exact .cons (h a List.mem_cons_self b c hb hc)
      (ih hbs hcs fun a' ha' => h a' (List.mem_cons_of_mem a ha'))

/-- Computations that agree on related elements agree on related lists. -/
theorem mapM_eq_of_forall₂ {g : γ → Except ε β} {m : List γ}
    (h : List.Forall₂ (fun a c => g c = f a) l m) : m.mapM g = l.mapM f := by
  induction h with
  | nil => rfl
  | cons hac _ ih => rw [List.mapM_cons, List.mapM_cons, hac, ih]

/-- What results from all of them results from one. -/
theorem mem_iff_of_mapM_eq_ok {bs : List β} (h : l.mapM f = .ok bs) {b : β} :
    b ∈ bs ↔ ∃ a ∈ l, f a = .ok b := by
  have hmem : Except.ok b ∈ l.map f ↔ Except.ok b ∈ bs.map (Except.ok (ε := ε)) := by
    rw [mapM_eq_ok_iff.1 h]
  rw [List.mem_map, List.mem_map] at hmem
  constructor
  · exact fun hb => hmem.2 ⟨b, hb, rfl⟩
  · intro ha
    obtain ⟨b', hb', he⟩ := hmem.1 ha
    rwa [← Except.ok.inj he]

/-- The first element fails, or it does not and a later one does. -/
theorem mapM_cons_eq_error_iff {a : α} {e : ε} : (a :: l).mapM f = .error e ↔
    f a = .error e ∨ (∃ b, f a = .ok b) ∧ l.mapM f = .error e := by
  rw [List.mapM_cons, bind_eq_error]
  refine or_congr_right ?_
  constructor
  · rintro ⟨b, hb, h⟩
    -- Putting the first result in front of the others cannot fail.
    rcases bind_eq_error.1 h with hl | ⟨bs, _, h⟩
    · exact ⟨⟨b, hb⟩, hl⟩
    · cases h
  · rintro ⟨⟨b, hb⟩, hl⟩
    exact ⟨b, hb, bind_eq_error.2 (.inl hl)⟩

/-- **The error is that of the first element that has one.** -/
theorem mapM_eq_error_iff {e : ε} : l.mapM f = .error e ↔
    ∃ as a bs, l = as ++ a :: bs ∧ (∀ c ∈ as, ∃ b, f c = .ok b) ∧ f a = .error e := by
  induction l with
  | nil =>
    refine ⟨nofun, ?_⟩
    rintro ⟨as, a, bs, h, _⟩
    exact absurd h.symm (by simp)
  | cons c l ih =>
    rw [mapM_cons_eq_error_iff, ih]
    constructor
    -- The first element fails, or it succeeds and stands in front of what did before.
    · rintro (hc | ⟨hc, as, a, bs, rfl, has, ha⟩)
      · exact ⟨[], c, l, rfl, fun _ h => absurd h List.not_mem_nil, hc⟩
      · exact ⟨c :: as, a, bs, rfl, List.forall_mem_cons.2 ⟨hc, has⟩, ha⟩
    · rintro ⟨as, a, bs, h, has, ha⟩
      cases as with
      | nil =>
        obtain ⟨rfl, rfl⟩ := List.cons.inj h
        exact .inl ha
      | cons c' as =>
        obtain ⟨rfl, rfl⟩ := List.cons.inj h
        obtain ⟨hc, has⟩ := List.forall_mem_cons.1 has
        exact .inr ⟨hc, as, a, bs, rfl, has, ha⟩

/-- The error is that of some element. -/
theorem exists_of_mapM_eq_error {e : ε} (h : l.mapM f = .error e) : ∃ a ∈ l, f a = .error e := by
  obtain ⟨as, a, bs, rfl, _, ha⟩ := mapM_eq_error_iff.1 h
  exact ⟨a, List.mem_append_right as List.mem_cons_self, ha⟩

/-- Some computation fails exactly if one of them does. -/
theorem exists_mapM_eq_error_iff :
    (∃ e, l.mapM f = .error e) ↔ ∃ a ∈ l, ∃ e, f a = .error e := by
  constructor
  · rintro ⟨e, h⟩
    obtain ⟨a, ha, he⟩ := exists_of_mapM_eq_error h
    exact ⟨a, ha, e, he⟩
  · rintro ⟨a, ha, e, he⟩
    -- If it succeeded, the failing element would have a result.
    cases h : l.mapM f with
    | error e' => exact ⟨e', rfl⟩
    | ok bs =>
      obtain ⟨b, _, hb⟩ := exists_of_mapM_eq_ok h a ha
      rw [he] at hb
      cases hb

/-- Some computation succeeds if each does. -/
theorem exists_mapM_eq_ok
    (h : ∀ a ∈ l, ∃ b, f a = .ok b) : ∃ bs, l.mapM f = .ok bs := by
  cases hm : l.mapM f with
  | ok bs => exact ⟨bs, rfl⟩
  | error e =>
    obtain ⟨a, ha, he⟩ := exists_of_mapM_eq_error hm
    obtain ⟨b, hb⟩ := h a ha
    rw [hb] at he
    cases he

/-- A loop whose every step succeeds does. -/
theorem exists_foldlM_eq_ok {f : β → α → Except ε β}
    (h : ∀ a ∈ l, ∀ b, ∃ c, f b a = .ok c) (b : β) : ∃ c, l.foldlM f b = .ok c := by
  induction l generalizing b with
  | nil => exact ⟨b, rfl⟩
  | cons a l ih =>
    rw [List.foldlM_cons]
    exact exists_bind_eq_ok (h a List.mem_cons_self b)
      (ih fun a' ha' => h a' (List.mem_cons_of_mem a ha'))

/-- Such a loop comes to what the steps come to. -/
theorem foldlM_eq_ok_of_forall₂ {f : β → α → Except ε β} {g : β → γ → β} {cs : List γ}
    (h : List.Forall₂ (fun a c => ∀ b, f b a = .ok (g b c)) l cs) (b : β) :
    l.foldlM f b = .ok (cs.foldl g b) := by
  induction h generalizing b with
  | nil => rfl
  | cons ha _ ih =>
    rw [List.foldlM_cons, bind_of_eq_ok (ha b)]
    exact ih _

/-- A loop with a step that fails, however far it got, fails. -/
theorem exists_foldlM_eq_error {f : β → α → Except ε β} {a : α} (ha : a ∈ l)
    (h : ∀ b, ∃ e, f b a = .error e) (b : β) : ∃ e, l.foldlM f b = .error e := by
  induction l generalizing b with
  | nil => exact absurd ha List.not_mem_nil
  | cons a' l ih =>
    rw [List.foldlM_cons]
    -- The fold fails at `a`, or at an element before it.
    rcases List.mem_cons.1 ha with rfl | ha
    · obtain ⟨e, he⟩ := h b
      exact ⟨e, by rw [he]; rfl⟩
    · cases f b a' with
      | error e => exact ⟨e, rfl⟩
      | ok c => exact ih ha c

/-- **Lists whose elements fare alike, in whatever order and however often,** have the same set of
results, provided that there is one error only. -/
theorem map_mapM_eq_of_same {l' : List α} {e : ε} {P : List β → γ}
    (he : ∀ a e', f a = .error e' → e' = e) (hP : ∀ bs bs', (∀ b, b ∈ bs ↔ b ∈ bs') → P bs = P bs')
    (h : ∀ a ∈ l, ∃ a' ∈ l', f a' = f a) (h' : ∀ a' ∈ l', ∃ a ∈ l, f a = f a') :
    (l.mapM f).map P = (l'.mapM f).map P := by
  -- Either both lists fail, with the one fault that there is, or both succeed.
  cases hl : l.mapM f with
  | error e₁ =>
    obtain ⟨a, ha, hfa⟩ := exists_of_mapM_eq_error hl
    obtain ⟨a', ha', hfa'⟩ := h a ha
    cases hl' : l'.mapM f with
    | error e₂ =>
      obtain ⟨b, _, hfb⟩ := exists_of_mapM_eq_error hl'
      rw [he a e₁ hfa, he b e₂ hfb]
    | ok bs' =>
      obtain ⟨b, _, hfb⟩ := exists_of_mapM_eq_ok hl' a' ha'
      rw [hfa', hfa] at hfb
      cases hfb
  | ok bs =>
    cases hl' : l'.mapM f with
    | error e₂ =>
      obtain ⟨a', ha', hfa'⟩ := exists_of_mapM_eq_error hl'
      obtain ⟨a, ha, hfa⟩ := h' a' ha'
      obtain ⟨b, _, hfb⟩ := exists_of_mapM_eq_ok hl a ha
      rw [hfa, hfa'] at hfb
      cases hfb
    | ok bs' =>
      -- The same results are reached from both lists, in some order and some number.
      have hbs : ∀ b, b ∈ bs ↔ b ∈ bs' := by
        intro b
        rw [mem_iff_of_mapM_eq_ok hl, mem_iff_of_mapM_eq_ok hl']
        constructor
        · rintro ⟨a, ha, hfa⟩
          obtain ⟨a', ha', heq⟩ := h a ha
          exact ⟨a', ha', heq.trans hfa⟩
        · rintro ⟨a', ha', hfa'⟩
          obtain ⟨a, ha, heq⟩ := h' a' ha'
          exact ⟨a, ha, heq.trans hfa'⟩
      exact congrArg Except.ok (hP bs bs' hbs)

/-- What is done with each result can be done at once. -/
theorem map_mapM (f : α → Except ε β) (g : β → γ) (l : List α) :
    (l.mapM f).map (List.map g) = l.mapM fun a => (f a).map g := by
  induction l with
  | nil => rfl
  | cons a l ih =>
    rw [List.mapM_cons, List.mapM_cons, ← ih]
    cases f a with
    | error e => rfl
    | ok b => cases l.mapM f <;> rfl

/-- A computation on indexed elements that does not depend on the index. -/
theorem mapM_mapIdx_eq_ok {c : α → β} {f : Nat → β → γ} {g : γ → Except ε δ} {h : α → δ}
    (H : ∀ k, ∀ a ∈ l, g (f k (c a)) = .ok (h a)) :
    ((l.map c).mapIdx f).mapM g = .ok (l.map h) := by
  induction l generalizing f with
  | nil => rfl
  | cons a l ih =>
    rw [List.map_cons, List.mapIdx_cons, List.mapM_cons, H 0 a List.mem_cons_self,
      ih fun k b hb => H (k + 1) b (List.mem_cons_of_mem a hb)]
    rfl

/-- A loop that computes something at each step and takes it in can do all the computing
first. -/
theorem foldlM_eq_map_mapM {g : γ → β → γ} (l : List α) (c : γ) :
    (l.foldlM (fun c a => (f a).map (g c)) c : Except ε γ) =
      (l.mapM f).map fun bs => bs.foldl g c := by
  -- The start of the fold changes from element to element.
  induction l generalizing c with
  | nil => rfl
  | cons a l ih =>
    rw [List.foldlM_cons, List.mapM_cons]
    cases f a with
    | error e => rfl
    | ok b =>
      show l.foldlM _ (g c b) = _
      rw [ih]
      cases l.mapM f <;> rfl

/-- What all elements need is computed once. -/
theorem mapM_map_eq {r : Except ε γ} (g : γ → α → β) (hl : l ≠ []) :
    (l.mapM fun a => r.map fun c => g c a) = r.map fun c => l.map (g c) := by
  cases r with
  | error e =>
    obtain ⟨a, l, rfl⟩ := List.exists_cons_of_ne_nil hl
    rw [List.mapM_cons]
    rfl
  | ok c => exact mapM_eq_ok fun a _ => rfl

end Lottery
