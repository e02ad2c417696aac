/-
# Numbers joined by commas

A list of numbers that is written with commas between them is read back as it
is, order and repeats included (`ofText_intercalate`), and charged for number by
number (`count_intercalate`).  So is the list itself read back
(`Listing.ofValue_value`).

The two readers are `split_bet_numbers` and `count_numbers`.
-/

import Lottery.Numbers
import Lottery.Proofs.Computations
import Lottery.Proofs.Text.Pieces
import Lottery.Proofs.Value

namespace Lottery
namespace Numbers

/-- The numbers of a text, the empty one included. -/
theorem ofValue_text (s : String) : ofValue (.text s) = .ok (ofText s) := by
  unfold ofValue
  split
  · next h =>
    have hs : s = "" := by simpa [Value.isPresent] using h
    subst hs
    rfl
  · rfl

/-- A value without long integers has numbers, since all of it can be written. -/
theorem exists_ofValue {v : Value} (h : v.hasLongInteger = false) : ∃ ns, ofValue v = .ok ns := by
  unfold ofValue
  split
  · exact ⟨[], rfl⟩
  · split
    · exact ⟨_, rfl⟩
    · rw [Value.hasLongInteger] at h
      exact exists_bind_eq_ok (exists_mapM_eq_ok fun v hv =>
        Value.exists_written (Value.hasLongInteger_of_mem_list h hv)) fun _ => ⟨_, rfl⟩
    · exact exists_bind_eq_ok (Value.exists_written h) fun _ => ⟨_, rfl⟩

/-- **Exactly the values with a long integer do not list numbers.** -/
theorem ofValue_eq_error_iff {v : Value} {f : Fault} :
    ofValue v = .error f ↔ f = .integerTooLong ∧ v.hasLongInteger = true := by
  cases h : v.hasLongInteger with
  | false =>
    obtain ⟨ns, hns⟩ := exists_ofValue h
    simp [hns]
  | true =>
    have hwritten : v.written = .error .integerTooLong := Value.written_eq_error_iff.2 ⟨rfl, h⟩
    have hlong : ofValue v = .error .integerTooLong := by
      unfold ofValue
      rw [Value.isPresent_of_long h]
      -- Of a list each element is written by itself, so the fault is that of the first long one.
      cases v with
      | null | bool b | real x | text s => cases h
      | list vs =>
        obtain ⟨u, hu, hlong⟩ := Value.anyLongInteger_iff.1 h
        obtain ⟨f', hf⟩ := exists_mapM_eq_error_iff.2
          ⟨u, hu, _, Value.written_eq_error_iff.2 ⟨rfl, hlong⟩⟩
        obtain ⟨w, _, hw⟩ := exists_of_mapM_eq_error hf
        rw [(Value.written_eq_error_iff.1 hw).1] at hf
        exact bind_eq_error.2 (.inl hf)
      | int n | object fields => exact bind_eq_error.2 (.inl hwritten)
    simp [hlong, eq_comm]

/-- Numbers in digits are left alone by trimming, and none of them is blank. -/
theorem trimmed_digits {ts : List (List Char)} (hne : ∀ t ∈ ts, t ≠ [])
    (hd : ∀ t ∈ ts, ∀ c ∈ t, c.isDigit = true) : trimmed ts = ts.map String.ofList := by
  have hmap : ts.map Text.trim = ts := by
    rw [List.map_congr_left fun t ht => Text.trim_digits (hd t ht), List.map_id']
  have hfilter : (ts.filter fun t => !t.isEmpty) = ts := by
    rw [List.filter_eq_self]
    intro t ht
    simpa using hne t ht
  rw [trimmed, hmap, hfilter]

/-- **Numbers that are joined by commas are read back.** -/
theorem ofText_intercalate {ns : List String} (hne : ∀ n ∈ ns, n.toList ≠ [])
    (hd : ∀ n ∈ ns, ∀ c ∈ n.toList, c.isDigit = true) :
    ofText (String.intercalate "," ns) = ns := by
  -- No numbers are the empty text, which has one blank piece instead of none.
  by_cases hns : ns = []
  · subst hns
    decide
  · have hcomma : ∀ t ∈ ns.map String.toList, ',' ∉ t := by
      intro t ht hc
      obtain ⟨n, hn, rfl⟩ := List.mem_map.1 ht
      exact absurd (hd n hn _ hc) (by decide)
    have hpieces : Text.pieces (· == ',') (String.intercalate "," ns).toList =
        ns.map String.toList := by
      rw [String.toList_intercalate]
      exact Text.pieces_intercalate (fun h => hns (List.map_eq_nil_iff.1 h)) hcomma
    rw [ofText, hpieces, trimmed_digits, List.map_map]
    · simp
    · intro t ht
      obtain ⟨n, hn, rfl⟩ := List.mem_map.1 ht
      exact hne n hn
    · intro t ht
      obtain ⟨n, hn, rfl⟩ := List.mem_map.1 ht
      exact hd n hn

/-- How many numbers of a text are charged for, the empty one included. -/
theorem count_text (s : String) : count (.text s) = .ok (countText s) := by
  unfold count
  split
  · next h =>
    have hs : s = "" := by simpa [Value.isPresent] using h
    subst hs
    rfl
  · rfl

/-- A digit is no gap. -/
theorem isGap_of_isDigit {c : Char} (h : c.isDigit = true) : isGap c = false := by
  rw [isGap, Bool.or_eq_false_iff, beq_eq_false_iff_ne, beq_eq_false_iff_ne]
  exact ⟨Text.ne_of_isDigit h (by decide), Text.ne_of_isDigit h (by decide)⟩

/-- **Numbers that are joined by commas are charged for one by one.** -/
theorem count_intercalate {ns : List String} (hne : ∀ n ∈ ns, n.toList ≠ [])
    (hd : ∀ n ∈ ns, ∀ c ∈ n.toList, c.isDigit = true) :
    count (.text (String.intercalate "," ns)) = .ok ns.length := by
  -- A comma is a gap and no digit is, so the words are the numbers.
  have hwords : Text.words isGap (String.intercalate "," ns).toList = ns.map String.toList := by
    rw [String.toList_intercalate]
    refine Text.words_intercalate (by decide) ?_
    rw [List.forall_mem_map]
    exact fun n hn => ⟨hne n hn, fun c hc => isGap_of_isDigit (hd n hn c hc)⟩
  have hfilter : ((ns.map String.toList).filter fun w => !(Text.trim w).isEmpty) =
      ns.map String.toList := by
    rw [List.filter_eq_self, List.forall_mem_map]
    intro n hn
    rw [Text.trim_digits (hd n hn)]
    simpa using hne n hn
  rw [count_text, countText, hwords, hfilter, List.length_map]

/-- The two ways in which a bet lists its numbers. -/
inductive Listing where
  /-- As one text, with commas between them. -/
  | joined
  /-- As a list of texts. -/
  | listed

namespace Listing

/-- Numbers as a value. -/
def value : Listing → List String → Value
  | .joined, ns => .text (String.intercalate "," ns)
  | .listed, ns => .list (ns.map .text)

/-- **Numbers are read back however they are listed.** -/
theorem ofValue_value (l : Listing) {ns : List String} (hne : ∀ n ∈ ns, n.toList ≠ [])
    (hd : ∀ n ∈ ns, ∀ c ∈ n.toList, c.isDigit = true) : ofValue (l.value ns) = .ok ns := by
  -- A text is cut at its commas, a list is written element by element.
  cases l with
  | joined => exact (ofValue_text _).trans (congrArg _ (ofText_intercalate hne hd))
  | listed =>
    have htrimmed : trimmed (ns.map String.toList) = ns := by
      rw [trimmed_digits (List.forall_mem_map.2 hne) (List.forall_mem_map.2 hd), List.map_map]
      simp
    have hwritten : (ns.map Value.text).mapM Value.written = .ok ns := by
      rw [mapM_eq_ok_iff, List.map_map]
      rfl
    cases ns with
    | nil => rfl
    | cons n ns =>
      show ((List.map Value.text (n :: ns)).mapM Value.written >>= _) = _
      rw [hwritten]
      exact congrArg Except.ok htrimmed

end Listing

end Numbers
end Lottery
