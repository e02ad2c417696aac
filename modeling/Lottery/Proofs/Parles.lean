/-
# A parle is known by its canonical spelling

Two texts are spellings of one parle if they are equal, or if both have four characters
and each is put together from the halves of the other (`Exchanged`).  The canonical
spelling tells texts apart as far as that and no further (`canonical_eq_iff_exchanged`),
whatever characters they are made of and however many:

| text | halves exchanged | canonical spelling |
| --- | --- | --- |
| `5934` | `3459` | `3459` |
| `3434` | `3434` | `3434` |
| `ñ2.é` | `.éñ2` | `.éñ2` |
| `593` | | `593` |

So the two spellings of a parle are one risk, and no other numbers are
(`Risk.named_eq_iff`); and a bet wins the same with its parles in either spelling, as
long as numbers are limited in pairs (`LimitedInPairs`).

The spelling is that of `canonical_parle`.
-/

import Lottery.Proofs.Exposure.Usage
import Lottery.Proofs.Numbers
import Lottery.Proofs.Payout.Parles
import Lottery.Proofs.Slip.WellFormed

namespace Lottery

namespace Parle

variable {s t : String} {ns ms limited : List String}

/-- Two texts of four characters, each the halves of the other in exchanged places. -/
def Exchanged (s t : String) : Prop :=
  ∃ x y : List Char, x.length = 2 ∧ y.length = 2 ∧ s.toList = x ++ y ∧ t.toList = y ++ x

/-- Exchanging the halves once more gives the first spelling. -/
theorem Exchanged.symm (h : Exchanged s t) : Exchanged t s := by
  obtain ⟨x, y, hx, hy, hs, ht⟩ := h
  exact ⟨y, x, hy, hx, ht, hs⟩

/-- The spelling with exchanged halves is the swap of a text of four characters. -/
theorem exchanged_iff : Exchanged s t ↔ s.toList.length = 4 ∧ t = swapped s := by
  constructor
  · rintro ⟨x, y, hx, hy, hs, ht⟩
    refine ⟨by rw [hs, List.length_append, hx, hy], ?_⟩
    rw [swapped, hs, swap_append hx hy, ← ht, String.ofList_toList]
  · rintro ⟨hlen, rfl⟩
    obtain ⟨x, y, hx, hy, rfl⟩ := exists_halves hlen
    refine ⟨x, y, hx, hy, String.toList_ofList, ?_⟩
    rw [swapped_ofList, swap_append hx hy, String.toList_ofList]

/-- A text that has no halves to exchange is its own swap. -/
theorem eq_or_exchanged_iff : s = t ∨ Exchanged s t ↔ t = s ∨ t = swapped s := by
  rw [exchanged_iff]
  by_cases hlen : s.toList.length = 4
  · rw [eq_comm (a := s), and_iff_right hlen]
  · rw [swapped_eq_self_of_length hlen, or_self, eq_comm (a := s), or_iff_left fun h => hlen h.1]

/-- **Two texts have one canonical spelling exactly if they are equal, or the halves of each other
exchanged.** -/
theorem canonical_eq_iff_exchanged : canonical s = canonical t ↔ s = t ∨ Exchanged s t := by
  rw [eq_comm, canonical_eq_canonical_iff, eq_or_exchanged_iff]

/-- The canonical spelling is the one that is written, or the other one. -/
theorem eq_canonical_or_exchanged (s : String) : s = canonical s ∨ Exchanged s (canonical s) :=
  eq_or_exchanged_iff.2 (canonical_eq_or s)

end Parle

/-- **Two numbers are one risk** exactly if their schedules and play types are the same, and the
numbers too, up to an exchange of the halves of a parle. -/
theorem Exposure.Risk.named_eq_iff {s s' t t' n m : String} : named s t n = named s' t' m ↔
    s = s' ∧ t = t' ∧ (n = m ∨ t = PlayType.parle.name ∧ Parle.Exchanged n m) := by
  simp only [named, Risk.mk.injEq, Value.text.injEq]
  refine and_congr_right fun _ => and_congr_right fun ht => ?_
  subst ht
  by_cases hparle : t = PlayType.parle.name
  · rw [if_pos hparle, if_pos hparle, Parle.canonical_eq_iff_exchanged, and_iff_right hparle]
  · rw [if_neg hparle, if_neg hparle, or_iff_left fun h => hparle h.1]

namespace Parle

open Exposure

/-! ### Numbers in either spelling -/

/-- Limited numbers with which their other spelling is limited. -/
def LimitedInPairs (limited : List String) : Prop :=
  ∀ n ∈ limited, ∀ m, Exchanged n m → m ∈ limited

/-- Where parles are limited in both spellings, each is limited in either. -/
theorem LimitedInPairs.mem_iff (h : LimitedInPairs limited) (hst : s = t ∨ Exchanged s t) :
    s ∈ limited ↔ t ∈ limited := by
  rcases hst with rfl | hst
  · exact Iff.rfl
  · exact ⟨fun hs => h s hs t hst, fun ht => h t ht s hst.symm⟩

/-- The other spelling of a parle is a parle. -/
theorem Exchanged.isNumber (h : Exchanged s t) (hs : PlayType.parle.IsNumber s) :
    PlayType.parle.IsNumber t := by
  obtain ⟨x, y, hx, hy, hxy, hyx⟩ := h
  refine ⟨?_, fun c hc => hs.2 c ?_⟩
  · rw [← String.length_toList, hyx, List.length_append, hx, hy]
    rfl
  · rw [hyx, List.mem_append] at hc
    rw [hxy, List.mem_append]
    exact hc.symm

/-- Four digits stay four digits. -/
theorem isNumber_of_forall₂ (h : List.Forall₂ (fun n m => n = m ∨ Exchanged n m) ns ms)
    (hns : ∀ n ∈ ns, PlayType.parle.IsNumber n) : ∀ m ∈ ms, PlayType.parle.IsNumber m := by
  induction h with
  | nil => exact hns
  | cons hnm _ ih =>
    rw [List.forall_mem_cons] at hns ⊢
    refine ⟨?_, ih hns.2⟩
    rcases hnm with rfl | hnm
    · exact hns.1
    · exact hnm.isNumber hns.1

/-- **The canonical spelling identifies the parles.**  It is a spelling of its text, it is its own
canonical spelling, and two texts share it exactly if they are spellings of each other.  So two
numbers are one risk exactly if schedule, play type and number are the same, a parle in either
spelling.  And a bet on parles has the same prize, or the same fault, with any of its numbers in
the other spelling, as long as numbers are limited in pairs; numbers of four digits may then be
listed in one text or one by one. -/
theorem canonical_identifies :
    (∀ s t, canonical s = canonical t ↔ s = t ∨ Exchanged s t) ∧
    (∀ s, canonical (canonical s) = canonical s ∧
      (s = canonical s ∨ Exchanged s (canonical s))) ∧
    (∀ s s' t t' n m, ∃ r r',
      Risk.of (.text s) (.text t) (.text n) = .ok r ∧
      Risk.of (.text s') (.text t') (.text m) = .ok r' ∧
      ((r == r') = true ↔ r = r') ∧
      (r = r' ↔ s = s' ∧ t = t' ∧ (n = m ∨ t = PlayType.parle.name ∧ Exchanged n m))) ∧
    ∀ (v amount : Value) (ns ms limited : List String) (d : Option Draw)
      (prices : Option Price.Table), Numbers.ofValue v = .ok ns →
      List.Forall₂ (fun n m => n = m ∨ Exchanged n m) ns ms → LimitedInPairs limited →
        (∀ w, Numbers.ofValue w = .ok ms →
          Bet.evaluate (some ⟨.text PlayType.parle.name, w, amount⟩) d limited prices =
            Bet.evaluate (some ⟨.text PlayType.parle.name, v, amount⟩) d limited prices) ∧
        ((∀ n ∈ ns, PlayType.parle.IsNumber n) → ∀ l : Numbers.Listing,
          Bet.evaluate (some ⟨.text PlayType.parle.name, l.value ms, amount⟩) d limited prices =
            Bet.evaluate (some ⟨.text PlayType.parle.name, v, amount⟩) d limited prices) := by
  refine ⟨fun s t => canonical_eq_iff_exchanged, fun s =>
    ⟨canonical_canonical s, eq_canonical_or_exchanged s⟩, fun s s' t t' n m => ?_, ?_⟩
  · exact ⟨_, _, Risk.of_written rfl t n, Risk.of_written rfl t' m, Risk.beq_named_iff,
      Risk.named_eq_iff⟩
  · intro v amount ns ms limited d prices hns hspelled hlimited
    -- Spellings that are exchanged win alike and are limited alike, so the payments are the same,
    -- one by one.
    have hprize : ∀ w, Numbers.ofValue w = .ok ms →
        Bet.evaluate (some ⟨.text PlayType.parle.name, w, amount⟩) d limited prices =
          Bet.evaluate (some ⟨.text PlayType.parle.name, v, amount⟩) d limited prices := by
      intro w hms
      refine Bet.evaluate_eq_of_spellings hns hms (hspelled.imp fun n m hnm => ?_) d prices
      exact ⟨canonical_eq_iff_exchanged.2 hnm, hlimited.mem_iff hnm⟩
    refine ⟨hprize, fun hnum l => hprize _ ?_⟩
    have hnum' := isNumber_of_forall₂ hspelled hnum
    exact l.ofValue_value (fun m hm => (hnum' m hm).toList_ne_nil) fun m hm => (hnum' m hm).2

/-- Three parles, two of which win and one of these is limited, in the other spelling: as a list,
and among blanks.  `5934` is one risk with `3459` as a parle, and another one as a fijo. -/
theorem canonical_identifies_respelled :
    canonical "ñ2.é" = canonical ".éñ2" ∧ canonical "5934" ≠ canonical "593" ∧
    (∃ r r', Risk.of (.text "s1") (.text "parle") (.text "5934") = .ok r ∧
      Risk.of (.text "s1") (.text "parle") (.text "3459") = .ok r' ∧ (r == r') = true) ∧
    (∃ r r', Risk.of (.text "s1") (.text "fijo") (.text "5934") = .ok r ∧
      Risk.of (.text "s1") (.text "fijo") (.text "3459") = .ok r' ∧ (r == r') = false) ∧
    Numbers.ofValue (.text " 5934 ,0199,,3434") = .ok ["5934", "0199", "3434"] ∧
    List.Forall₂ (fun n m => n = m ∨ Exchanged n m) ["5934", "0199", "3434"]
      ["3459", "0199", "3434"] ∧
    LimitedInPairs ["5934", "3459"] ∧
    Bet.evaluate (some ⟨.text "parle", .text " 5934 ,0199,,3434", .int 2⟩)
      (some ⟨1, ⟨3, 4⟩, ⟨3, 4⟩, ⟨5, 9⟩⟩) ["5934", "3459"] (some .reference) =
        .ok ⟨true, .ofInt 4200⟩ ∧
    Bet.evaluate (some ⟨.text "parle", .text "3459 ,, 0199,3434", .int 2⟩)
      (some ⟨1, ⟨3, 4⟩, ⟨3, 4⟩, ⟨5, 9⟩⟩) ["5934", "3459"] (some .reference) =
        .ok ⟨true, .ofInt 4200⟩ ∧
    Bet.evaluate (some ⟨.text "parle", .list [.text "3459", .text "0199", .text "3434"], .int 2⟩)
      (some ⟨1, ⟨3, 4⟩, ⟨3, 4⟩, ⟨5, 9⟩⟩) ["5934", "3459"] (some .reference) =
        .ok ⟨true, .ofInt 4200⟩ := by
  -- The parles are those of a draw with two equal groups, one of them limited in both spellings.
  have hexchanged : Exchanged "5934" "3459" :=
    ⟨['5', '9'], ['3', '4'], rfl, rfl, by decide, by decide⟩
  have hspelled : List.Forall₂ (fun n m => n = m ∨ Exchanged n m) ["5934", "0199", "3434"]
      ["3459", "0199", "3434"] :=
    .cons (.inr hexchanged) (.cons (.inl rfl) (.cons (.inl rfl) .nil))
  have hlimited : LimitedInPairs ["5934", "3459"] := by
    intro n hn m hnm
    rcases List.mem_pair.1 hn with rfl | rfl <;> rw [(exchanged_iff.1 hnm).2] <;> decide
  have hns : Numbers.ofValue (.text " 5934 ,0199,,3434") = .ok ["5934", "0199", "3434"] := by
    decide +kernel
  have hnum : ∀ n ∈ ["5934", "0199", "3434"], PlayType.parle.IsNumber n := by
    intro n hn
    simp only [List.mem_cons, List.not_mem_nil, or_false] at hn
    rcases hn with rfl | rfl | rfl <;> exact ⟨rfl, by simp⟩
  have hprize : Bet.evaluate (some ⟨.text "parle", .text " 5934 ,0199,,3434", .int 2⟩)
      (some ⟨1, ⟨3, 4⟩, ⟨3, 4⟩, ⟨5, 9⟩⟩) ["5934", "3459"] (some .reference) =
        .ok ⟨true, .ofInt 4200⟩ := by
    decide +kernel
  obtain ⟨hcanonical, _, hrisk, hbets⟩ := canonical_identifies
  obtain ⟨hrespelled, hlisted⟩ := hbets (.text " 5934 ,0199,,3434") (.int 2) _ _ _
    (some ⟨1, ⟨3, 4⟩, ⟨3, 4⟩, ⟨5, 9⟩⟩) (some .reference) hns hspelled hlimited
  refine ⟨(hcanonical _ _).2 (.inr ?_), fun h => ?_, ?_, ?_, hns, hspelled, hlimited, hprize, ?_,
    ?_⟩
  · exact ⟨['ñ', '2'], ['.', 'é'], rfl, rfl, by decide, by decide⟩
  · rcases (hcanonical _ _).1 h with h | h
    · exact absurd h (by decide)
    · exact absurd (exchanged_iff.1 h).2 (by decide)
  · obtain ⟨r, r', hr, hr', hbeq, heq⟩ := hrisk "s1" "s1" "parle" "parle" "5934" "3459"
    exact ⟨r, r', hr, hr', hbeq.2 (heq.2 ⟨rfl, rfl, .inr ⟨rfl, hexchanged⟩⟩)⟩
  · obtain ⟨r, r', hr, hr', hbeq, heq⟩ := hrisk "s1" "s1" "fijo" "fijo" "5934" "3459"
    refine ⟨r, r', hr, hr', Bool.eq_false_iff.2 fun h => ?_⟩
    rcases (heq.1 (hbeq.1 h)).2.2 with h | h
    · exact absurd h (by decide)
    · exact absurd h.1 (by decide)
  · exact (hrespelled (.text "3459 ,, 0199,3434") (by decide +kernel)).trans hprize
  · exact (hlisted hnum .listed).trans hprize

end Parle
end Lottery
