/-
# Two-digit numbers at the amounts behind "con"

Of the tokens behind the word the last one for a slot counts, and a slot without a
token has the amount 0.  With `n` numbers of two digits before the word there are
`q = n (n - 1) / 2` pairs, and the line is read by its amounts as follows:

| amounts | line |
| --- | --- |
| none but plain ones | rejected |
| `p` or `can`, and `n < 2` | rejected |
| `can`, less than `q` | rejected |
| any others | `fijo` at `f`, `corrido` at `c`, the pairs at `p`, the pairs at `can / q` |

where an amount that is 0 asks for nothing (`read_slots`).  A line that is rejected
asks for nothing of what its other amounts ask for.

The amounts are given to the numbers by `_con_two_digit`.
-/

import Lottery.Proofs.Slip.ConParts
import Lottery.Proofs.Slip.Expansion

namespace Lottery
namespace Slip

namespace Con

/-- Why a line of `n` numbers of two digits is rejected at some amounts. -/
inductive Refusal (n : Nat) (a : Amounts) : LineError → Prop where
  | missingPlayType (hf : a.fijo = 0) (hc : a.corrido = 0) (hp : a.parle = 0)
      (hl : a.locked = 0) : Refusal n a .missingPlayType
  | tooFewGroups (h : a.parle ≠ 0 ∨ a.locked ≠ 0) (hn : n < 2) : Refusal n a .tooFewGroups
  | lockedShareTooSmall (hl : a.locked ≠ 0) (h : a.locked < n * (n - 1) / 2) :
      Refusal n a .lockedShareTooSmall

/-- What numbers `ns` with the pairs `ps` ask for at some amounts. -/
def asked (ns ps : List String) (a : Amounts) : List Wager :=
  (if a.fijo = 0 then [] else [⟨.fijo, ns, a.fijo, a.fijo * ns.length, none⟩]) ++
    (if a.corrido = 0 then [] else [⟨.corrido, ns, a.corrido, a.corrido * ns.length, none⟩]) ++
    (if a.parle = 0 then [] else [⟨.parle, ps, a.parle, a.parle * ps.length, some .pairs⟩]) ++
    (if a.locked = 0 then []
      else [⟨.parle, ps, a.locked / ps.length, a.locked, some .lockedPairs⟩])

variable {gs : List (List Char)} {a : Amounts}

/-- The line on which something is to be paired. -/
theorem twoDigits_eq_of_pairs (h : a.parle ≠ 0 ∨ a.locked ≠ 0) (hn : 2 ≤ gs.length) :
    twoDigits gs a =
      if a.locked ≠ 0 ∧ a.locked < gs.length * (gs.length - 1) / 2 then .error .lockedShareTooSmall
      else .ok (asked (gs.map String.ofList) (pairNumbers gs) a) := by
  have hpair : ¬ (a.parle = 0 ∧ a.locked = 0) := fun h0 => h.elim (· h0.1) (· h0.2)
  unfold twoDigits
  dsimp only
  rw [if_neg hpair, if_neg (Nat.not_lt.2 hn), ← pairNumbers, length_pairNumbers]
  -- Only a shared amount can be too small.
  by_cases hl : a.locked = 0
  · have hshare : ¬ (a.locked ≠ 0 ∧ a.locked < gs.length * (gs.length - 1) / 2) := fun h => h.1 hl
    rw [if_pos hl, if_neg hshare, asked, if_pos hl, List.append_nil]
    rfl
  · rw [if_neg hl, asked, if_neg hl]
    simp only [ne_eq, hl, not_false_eq_true, true_and]
    rfl

/-- The wagers of two-digit numbers are refused for the first thing that is wrong with their
amounts. -/
theorem twoDigits_eq_error {e : LineError} (h : Refusal gs.length a e) :
    twoDigits gs a = .error e := by
  cases h with
  | missingPlayType hf hc hp hl => simp [twoDigits, hf, hc, hp, hl]
  | tooFewGroups h hn =>
    have hpair : ¬ (a.parle = 0 ∧ a.locked = 0) := fun h0 => h.elim (· h0.1) (· h0.2)
    unfold twoDigits
    dsimp only
    rw [if_neg hpair, if_pos hn]
  | lockedShareTooSmall hl h =>
    -- With fewer than two numbers there are no pairs, and no share is too small for none.
    have hn : 2 ≤ gs.length := by
      by_contra hn
      have hmul : gs.length * (gs.length - 1) = 0 := by
        rw [show gs.length - 1 = 0 by omega, Nat.mul_zero]
      omega
    rw [twoDigits_eq_of_pairs (.inr hl) hn, if_pos ⟨hl, h⟩]

/-- **Each amount asks for its play,** in the order of the slots. -/
theorem twoDigits_eq_ok (h : ∀ e, ¬ Refusal gs.length a e) :
    twoDigits gs a = .ok (asked (gs.map String.ofList) (pairNumbers gs) a) := by
  -- Without an amount for pairs, one of the two straight amounts asks for something.
  by_cases hpair : a.parle = 0 ∧ a.locked = 0
  · unfold twoDigits
    dsimp only
    rw [if_pos hpair, if_neg, asked, if_pos hpair.1, if_pos hpair.2, List.append_nil,
      List.append_nil]
    · rfl
    · intro hempty
      refine h _ (.missingPlayType ?_ ?_ hpair.1 hpair.2) <;> by_contra hne <;> simp [hne] at hempty
  · have hsome : a.parle ≠ 0 ∨ a.locked ≠ 0 := by omega
    have hn : 2 ≤ gs.length := Nat.not_lt.1 fun hn => h _ (.tooFewGroups hsome hn)
    rw [twoDigits_eq_of_pairs hsome hn, if_neg]
    exact fun hshare => h _ (.lockedShareTooSmall hshare.1 hshare.2)

/-- The wager that shares an amount keeps it as it is written. -/
theorem writtenTotal?_of_mem_asked {ns ps : List String} {w : Wager} (h : w ∈ asked ns ps a) :
    w.writtenTotal? = if w.mode = some .lockedPairs then some a.locked else none := by
  simp only [asked, List.mem_append, List.mem_ite_nil_left, List.mem_singleton] at h
  rcases h with ((⟨_, rfl⟩ | ⟨_, rfl⟩) | ⟨_, rfl⟩) | ⟨_, rfl⟩ <;> rfl

/-! ### What is read -/

/-- What a line of two-digit numbers comes to at some amounts. -/
structure ReadsAmounts (gs : List (List Char)) (a : Amounts) (o : Outcome) : Prop where
  rejected_iff : ∀ e, o = ⟨[], [(1, e)]⟩ ↔ Refusal gs.length a e
  accepted : (∀ e, ¬ Refusal gs.length a e) → ∃ ps, ListsPairs gs ps ∧
    ps.length = gs.length * (gs.length - 1) / 2 ∧ o.AsksFor (asked (gs.map String.ofList) ps a)
  /-- The wager that shares an amount keeps it as it is written. -/
  writtenTotal : ∀ i ∈ o.instructions,
    i.writtenTotal? = if i.mode = some .lockedPairs then some a.locked else none

/-- A line that is read by its slots has the instructions that the slots say, or the error. -/
theorem readsAmounts {l : List Char} (hl : Text.Flush l ∧ '\n' ∉ l)
    (h : line l = twoDigits gs a) : ReadsAmounts gs a (read .con (String.ofList l)) := by
  -- Rejected or accepted, by whether there is a reason to refuse; both ways round.
  have hasks : (∀ e, ¬ Refusal gs.length a e) →
      (read .con (String.ofList l)).AsksFor (asked (gs.map String.ofList) (pairNumbers gs) a) :=
    fun hnone => asksFor_read hl (h.trans (twoDigits_eq_ok hnone))
  have hrejected : ∀ e, Refusal gs.length a e →
      read .con (String.ofList l) = ⟨[], [(1, e)]⟩ :=
    fun e he => read_eq_of_line_eq_error hl (h.trans (twoDigits_eq_error he))
  refine ⟨fun e => ⟨fun he => ?_, hrejected e⟩, fun hnone => ?_, fun i hi => ?_⟩
  · by_cases hnone : ∀ e, ¬ Refusal gs.length a e
    · have herrors := (hasks hnone).errors_eq
      rw [he] at herrors
      cases herrors
    · obtain ⟨e', he'⟩ := not_forall_not.1 hnone
      rw [hrejected e' he'] at he
      cases he
      exact he'
  · exact ⟨_, listsPairs_pairNumbers gs, length_pairNumbers gs, hasks hnone⟩
  · by_cases hnone : ∀ e, ¬ Refusal gs.length a e
    · have hmem : i.toWager ∈ asked (gs.map String.ofList) (pairNumbers gs) a := by
        rw [← (hasks hnone).wagers_eq]
        exact List.mem_map_of_mem hi
      exact writtenTotal?_of_mem_asked hmem
    · obtain ⟨e, he⟩ := not_forall_not.1 hnone
      rw [hrejected e he] at hi
      exact absurd hi List.not_mem_nil

end Con

/-- **Two-digit numbers are played as the amounts ask, or not at all.**  Before the word the
numbers stand with any gaps and joints between each two, behind it tokens with any blanks.  If
each token writes an amount for a slot, the last one of each slot decides; the line is rejected
exactly if it has a reason to be (`Con.Refusal`), and else asks for what these amounts ask for
(`Con.asked`).  If some token writes none, the line is rejected, whatever the others are. -/
theorem read_slots {ns ts : List (List Char)} {left right : List Char} (hns : OfWidth 2 ns)
    (hleft : Text.Joined (Text.Inline (Text.IsRun Con.isMark)) ns left)
    (hright : Con.Tokens ts right) :
    (∀ es, List.Forall₂ Con.Writes ts es →
      Con.ReadsAmounts ns (.ofTokens es) (read .con (String.ofList (Con.lineOf left right)))) ∧
    ((∃ t ∈ ts, ∀ e, ¬ Con.Writes t e) →
      ∃ e, read .con (String.ofList (Con.lineOf left right)) = ⟨[], [(1, e)]⟩) := by
  have hopening := Con.opening_joined hns (by decide) hleft
  have hflush := hopening.flush_lineOf hright.flush
  constructor
  · intro es hes
    exact Con.readsAmounts hflush (hopening.line_eq_of_writes hright hes)
  · rintro ⟨t, ht, hbad⟩
    rw [← hright.words_eq] at ht
    -- A token that writes nothing spoils the amounts, though the numbers may be refused before.
    obtain ⟨err, herr⟩ := Con.Amounts.exists_read_behind_eq_error ht hbad
    have hline : ∃ e, Con.line (Con.lineOf left right) = .error e := by
      rw [hopening.line_eq, herr]
      split
      · exact ⟨_, rfl⟩
      · exact ⟨_, rfl⟩
    obtain ⟨e, he⟩ := hline
    exact ⟨e, read_eq_of_line_eq_error hflush he⟩

/-- Three numbers, one of them twice.  The last `f` is 0 and the last `can` is 8, so the pairs are
played twice and nothing else is; with one more word "con" the line is rejected. -/
theorem read_slots_overwritten :
    OfWidth 2 ["12".toList, "34".toList, "12".toList] ∧
    Con.Tokens ["2f".toList, "9CAN".toList, "0F".toList, "3p".toList, "8can".toList, "7".toList]
      "2f 9CAN\t0F 3p  8can 7".toList ∧
    ListsPairs ["12".toList, "34".toList, "12".toList] ["1234", "1212", "3412"] ∧
    (read .con "12, 34-12 con 2f 9CAN\t0F 3p  8can 7").AsksFor
      [⟨.parle, ["1234", "1212", "3412"], 3, 9, some .pairs⟩,
        ⟨.parle, ["1234", "1212", "3412"], 2, 8, some .lockedPairs⟩] ∧
    ∃ e, read .con "12, 34-12 con 2f con" = ⟨[], [(1, e)]⟩ := by
  have hns : OfWidth 2 ["12".toList, "34".toList, "12".toList] := by decide
  -- Two slots are written twice, and of `f` the last amount is zero.
  have hleft : Text.Joined (Text.Inline (Text.IsRun Con.isMark))
      ["12".toList, "34".toList, "12".toList] "12, 34-12".toList := by
    have hjoined : "12, 34-12".toList =
        "12".toList ++ ", ".toList ++ ("34".toList ++ "-".toList ++ "12".toList) := by
      decide
    rw [hjoined]
    exact .cons _ ⟨by decide, by decide⟩ (.cons _ ⟨by decide, by decide⟩ (.single _))
  have hright : Con.Tokens
      ["2f".toList, "9CAN".toList, "0F".toList, "3p".toList, "8can".toList, "7".toList]
      "2f 9CAN\t0F 3p  8can 7".toList := by
    have hjoined : "2f 9CAN\t0F 3p  8can 7".toList =
        "2f".toList ++ " ".toList ++ ("9CAN".toList ++ "\t".toList ++ ("0F".toList ++ " ".toList ++
          ("3p".toList ++ "  ".toList ++ ("8can".toList ++ " ".toList ++ "7".toList)))) := by
      decide
    refine ⟨by decide, ?_⟩
    rw [hjoined]
    exact .cons _ ⟨by decide, by decide⟩ (.cons _ ⟨by decide, by decide⟩
      (.cons _ ⟨by decide, by decide⟩ (.cons _ ⟨by decide, by decide⟩
        (.cons _ ⟨by decide, by decide⟩ (.single _)))))
  have hes : List.Forall₂ Con.Writes
      ["2f".toList, "9CAN".toList, "0F".toList, "3p".toList, "8can".toList, "7".toList]
      [(.fijo, 2), (.locked, 9), (.fijo, 0), (.parle, 3), (.locked, 8), (.plain, 7)] :=
    .cons (@Con.Writes.mk ['2'] ['f'] .fijo (by decide) (by decide) (by decide)) <|
    .cons (@Con.Writes.mk ['9'] ['C', 'A', 'N'] .locked (by decide) (by decide) (by decide)) <|
    .cons (@Con.Writes.mk ['0'] ['F'] .fijo (by decide) (by decide) (by decide)) <|
    .cons (@Con.Writes.mk ['3'] ['p'] .parle (by decide) (by decide) (by decide)) <|
    .cons (@Con.Writes.mk ['8'] ['c', 'a', 'n'] .locked (by decide) (by decide) (by decide)) <|
    .cons (@Con.Writes.mk ['7'] [] .plain (by decide) (by decide) (by decide)) .nil
  have hspoilt : Con.Tokens ["2f".toList, "con".toList] "2f con".toList := by
    have hjoined : "2f con".toList = "2f".toList ++ " ".toList ++ "con".toList := by decide
    refine ⟨by decide, ?_⟩
    rw [hjoined]
    exact .cons _ ⟨by decide, by decide⟩ (.single _)
  have hread : read .con "12, 34-12 con 2f 9CAN\t0F 3p  8can 7" =
      ⟨[⟨⟨.parle, ["1234", "1212", "3412"], 3, 9, some .pairs⟩, 1, ["1234", "1212", "3412"]⟩,
        ⟨⟨.parle, ["1234", "1212", "3412"], 2, 8, some .lockedPairs⟩, 1,
          ["1234", "1212", "3412"]⟩], []⟩ := by
    decide +kernel
  refine ⟨hns, hright, ?_⟩
  have hreads := (read_slots hns hleft hright).1 _ hes
  obtain ⟨ps, hps, _, hasks⟩ := hreads.accepted (by
    intro e he
    cases he with
    | missingPlayType _ _ hp _ => exact absurd hp (by decide)
    | tooFewGroups _ hn => exact absurd hn (by decide)
    | lockedShareTooSmall _ h => exact absurd h (by decide))
  have htext : String.ofList (Con.lineOf "12, 34-12".toList "2f 9CAN\t0F 3p  8can 7".toList) =
      "12, 34-12 con 2f 9CAN\t0F 3p  8can 7" := by
    decide +kernel
  rw [htext] at hasks
  have hwagers := hasks.wagers_eq
  rw [hread] at hwagers
  obtain rfl : ["1234", "1212", "3412"] = ps := congrArg Wager.numbers (List.cons.inj hwagers).1
  exact ⟨hps, hasks, (read_slots hns hleft hspoilt).2 ⟨_, by simp, Con.Amounts.not_writes_con⟩⟩

end Slip
end Lottery
