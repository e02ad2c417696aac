/-
# Lines with "con" that are put together

A line is put together from numbers of one width, the word, and amounts, each
with the letters of its slot: `12 34 con 5f 3c`.  The numbers are read back, and so
are the amounts, of which the last one of a slot counts (`Amounts.read_tokens`).
So the line asks for the wagers on these numbers at these amounts
(`Con.line_written`); groups at an amount with `p` or `can` are paired at it
(`Con.line_pairs`).
-/

import Lottery.Proofs.Slip.ConParts
import Lottery.Proofs.Slip.Pairs

namespace Lottery
namespace Slip

namespace Con

variable {ns : List (List Char)} {a : List Char}

/-! ### Tokens -/

/-- The letters of a slot are small. -/
theorem Slot.map_toLower_letters (s : Slot) : s.letters.map Char.toLower = s.letters := by
  cases s <;> decide

/-- They are no blanks. -/
theorem Slot.isBlank_letters (s : Slot) : ∀ c ∈ s.letters, Text.isBlank c = false := by
  cases s <;> simp [letters, Text.isBlank]

/-- An amount with the letters of its slot. -/
def token (e : List Char × Slot) : List Char :=
  e.1 ++ e.2.letters

section Token

variable {e : List Char × Slot} (h : IsNumeral e.1)
include h

/-- A token has digits. -/
theorem token_ne_nil : token e ≠ [] := by
  simp [token, h.ne_nil]

/-- It has no blanks, so it is one word. -/
theorem isBlank_token : ∀ c ∈ token e, Text.isBlank c = false := by
  intro c hc
  rcases List.mem_append.1 hc with hc | hc
  · exact Text.isBlank_of_isDigit (h.allDigits c hc)
  · exact e.2.isBlank_letters c hc

/-- There is no o in it, so it is not taken for the word. -/
theorem toLower_token : ∀ c ∈ token e, c.toLower ≠ 'o' := by
  intro c hc
  rcases List.mem_append.1 hc with hc | hc
  · exact toLower_ne_of_isDigit (h.allDigits c hc) (by decide)
  · exact (Slot.not_isDigit_and_toLower_ne e.2.map_toLower_letters c hc).2

/-- A token sets its slot to its amount. -/
theorem Amounts.add_token (a : Amounts) :
    a.add (token e) = (amount e.1).map fun n => a.set n e.2 :=
  add_append h e.2.map_toLower_letters a

end Token

section Tokens

variable {es : List (List Char × Slot)} (hne : es ≠ []) (hes : ∀ e ∈ es, IsNumeral e.1)
include hne hes

/-- Tokens with a blank between each two are read as these tokens. -/
theorem tokens_written : Tokens (es.map token) ([' '].intercalate (es.map token)) where
  isToken t ht := by
    obtain ⟨e, he, rfl⟩ := List.mem_map.1 ht
    exact ⟨token_ne_nil (hes e he), isBlank_token (hes e he)⟩
  blanks := Text.joined_intercalate ⟨by decide, by decide⟩ fun h => hne (List.map_eq_nil_iff.1 h)

/-- **Amounts are read back,** each into its slot; the last one of a slot counts. -/
theorem Amounts.read_tokens : Amounts.read ([' '].intercalate (es.map token)) =
    es.foldlM (fun a e => (amount e.1).map fun n => a.set n e.2) Amounts.zero := by
  -- One token after the other, each of them setting its slot.
  have hadd : ∀ (fs : List (List Char × Slot)), (∀ e ∈ fs, IsNumeral e.1) → ∀ a : Amounts,
      (fs.map token).foldlM Amounts.add a =
        fs.foldlM (fun a e => (amount e.1).map fun n => a.set n e.2) a := by
    intro fs hfs a
    induction fs generalizing a with
    | nil => rfl
    | cons e fs ih =>
      obtain ⟨he, hfs⟩ := List.forall_mem_cons.1 hfs
      rw [List.map_cons, List.foldlM_cons, List.foldlM_cons, add_token he]
      exact bind_congr fun b => ih hfs b
  rw [Amounts.read, (tokens_written hne hes).words_eq, hadd es hes]

end Tokens

/-! ### Lines -/

/-- Numbers, the word, and amounts with their slots. -/
def written (ns : List (List Char)) (es : List (List Char × Slot)) : List Char :=
  [' '].intercalate ns ++ [' ', 'c', 'o', 'n', ' '] ++ [' '].intercalate (es.map token)

example : written ["12".toList, "34".toList] [("5".toList, .fijo), ("9".toList, .locked)] =
    "12 34 con 5f 9can".toList := by
  decide

/-- Numbers with a blank between each two and the word behind them open a line. -/
theorem opening_written {w : Nat} (hns : OfWidth w ns) (hw : 0 < w) :
    Opening w ns ([' '].intercalate ns) :=
  opening_joined hns hw (Text.joined_intercalate ⟨by decide, by decide⟩ hns.ne_nil)

section Written

variable {es : List (List Char × Slot)} {w : Nat} (hns : OfWidth w ns) (hw : 0 < w)
  (hne : es ≠ []) (hes : ∀ e ∈ es, IsNumeral e.1)
include hns hw hne hes

/-- The line has no margin and no line end. -/
theorem flush_written : Text.Flush (written ns es) ∧ '\n' ∉ written ns es :=
  (opening_written hns hw).flush_lineOf (tokens_written hne hes).flush

/-- **Numbers and amounts are read back** from a line with "con". -/
theorem line_written : line (written ns es) = (do
    let a ← es.foldlM (fun a e => (amount e.1).map fun n => a.set n e.2) Amounts.zero
    wagers ns w a) := by
  -- Tokens are digits and letters of slots, so the word does not come again.
  have hright : ∀ c ∈ [' '].intercalate (es.map token), c.toLower ≠ 'o' := by
    intro c hc
    rcases Text.mem_intercalate hc with rfl | ⟨t, ht, hc⟩
    · decide
    · obtain ⟨e, he, rfl⟩ := List.mem_map.1 ht
      exact toLower_token (hes e he) c hc
  show line (lineOf _ _) = _
  rw [(opening_written hns hw).line_eq_of_flush hright (tokens_written hne hes).flush.1,
    Amounts.read_tokens hne hes]

end Written

/-! ### Pairs -/

/-- The stake on each of so many pairs and the total, by the amount and whether the pairs share
it. -/
def pairsStake (locked : Bool) (a : List Char) (pairs : Nat) : Except LineError (Nat × Nat) := do
  let n ← amount a
  if n = 0 then .error .missingPlayType
  else if locked then if n < pairs then .error .lockedShareTooSmall else .ok (n / pairs, n)
  else .ok (n, n * pairs)

/-- **Groups at one amount for their pairs** are paired at it. -/
theorem line_pairs {locked : Bool} (hns : OfWidth 2 ns) (hlen : 2 ≤ ns.length)
    (ha : IsNumeral a) : line (written ns [(a, if locked then .locked else .parle)]) =
      (pairsStake locked a (pairs ns).length).map fun x =>
        [⟨.parle, pairNumbers ns, x.1, x.2, some (if locked then .lockedPairs else .pairs)⟩] := by
  have hes : ∀ e ∈ [(a, if locked then Slot.locked else .parle)], IsNumeral e.1 :=
    List.forall_mem_singleton.2 ha
  have hnlen : ¬ ns.length < 2 := Nat.not_lt.2 hlen
  have hcount : (pairNumbers ns).length = (pairs ns).length := List.length_map ..
  rw [line_written hns (by decide) (List.cons_ne_nil _ _) hes, pairsStake]
  simp only [List.foldlM_cons, List.foldlM_nil]
  cases amount a with
  | error e => rfl
  | ok n =>
    -- The one amount goes to the slot for stakes or to that for shares.
    cases locked with
    | false =>
      show twoDigits ns ⟨0, 0, 0, n, 0⟩ = Except.map _ (if n = 0 then _ else _)
      unfold twoDigits
      by_cases hn : n = 0
      · simp only [hn, and_self, if_true]
        rfl
      · simp only [hn, hnlen, false_and, if_true, if_false]
        rw [Wager.staking, ← pairNumbers, hcount]
        rfl
    | true =>
      show twoDigits ns ⟨0, 0, 0, 0, n⟩ = Except.map _ (if n = 0 then _ else _)
      unfold twoDigits
      by_cases hn : n = 0
      · simp only [hn, and_self, if_true]
        rfl
      · simp only [hn, hnlen, and_false, if_true, if_false]
        rw [Wager.sharing, ← pairNumbers, hcount]
        split <;> rfl

end Con

end Slip
end Lottery
