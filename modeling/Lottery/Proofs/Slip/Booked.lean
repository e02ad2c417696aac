/-
# What is booked is what the slip asks for

An instruction is booked with its numbers joined by commas.  Nothing downstream
sees more in that text, or less, than the numbers of the instruction:

| reader | finds |
| --- | --- |
| the numbers that can win | the numbers, in their order, with repeats |
| the numbers that are charged for | as many |
| the prize of the bet | the prize of the bet on the list of them |
| the usage | a risk for each number and schedule, and no other |

(`booked_read`).  What makes it so is that numbers are made of digits, so neither
a comma nor a blank stands in one (`Numbers.ofText_intercalate`,
`Numbers.count_intercalate`).

The readers are `split_bet_numbers`, `count_numbers` and `usage_from_plays`.
-/

import Lottery.Proofs.Exposure.Booking

namespace Lottery

namespace Bet

/-- A bet depends on its numbers, not on how they are listed. -/
theorem evaluate_congr {t v w : Value} (h : Numbers.ofValue v = Numbers.ofValue w) (amount : Value)
    (d : Option Draw) (limited : List String) (prices : Option Price.Table) :
    evaluate (some ⟨t, v, amount⟩) d limited prices =
      evaluate (some ⟨t, w, amount⟩) d limited prices := by
  cases d with
  | none => rfl
  | some d =>
    cases prices with
    | none => rfl
    | some prices =>
      -- A bet is looked at through its numbers, however these are listed.
      show prize _ d limited prices = prize _ d limited prices
      unfold prize
      dsimp only
      rw [h]
      rfl

end Bet

namespace Slip

open Exposure

/-- **What is booked is what the slip asks for.**  The numbers of an instruction, joined by commas,
are read back as they are, are charged for one by one, and win what the list of them wins.  If all
stakes are doubles, the usage of the plays of a slip has an amount for each number in each of its
schedules, and for no other risk. -/
theorem booked_read (g : Grammar) (text : String) :
    (∀ i ∈ (read g text).instructions,
      Numbers.ofValue (.text (String.intercalate "," i.numbers)) = .ok i.numbers ∧
      Numbers.count (.text (String.intercalate "," i.numbers)) = .ok i.numbers.length ∧
      ∀ (amount : Value) (d : Option Draw) (limited : List String) (prices : Option Price.Table),
        Bet.evaluate (some ⟨.text i.playType.name, .text (String.intercalate "," i.numbers),
            amount⟩) d limited prices =
          Bet.evaluate (some ⟨.text i.playType.name, .list (i.numbers.map .text), amount⟩) d
            limited prices) ∧
    ∀ (slip : BetSlip) (S : List String) (k : Nat),
      (∀ i ∈ (read g text).instructions, (Binary64.ofInt i.each).isFinite = true) →
        ∃ U, usage (Book.playsOf slip (S.map .text) k (read g text).instructions) = .ok U ∧
          ∀ r, r ∈ U.map Prod.fst ↔ ∃ s ∈ S, ∃ i ∈ (read g text).instructions, ∃ n ∈ i.numbers,
            Risk.of (.text s) (.text i.playType.name) (.text n) = .ok r := by
  have hnum : ∀ i ∈ (read g text).instructions, ∀ n ∈ i.numbers, i.playType.IsNumber n := by
    intro i hi
    obtain ⟨_, _, hwf⟩ := wellFormed_read hi
    exact hwf.isNumber
  constructor
  · intro i hi
    have hne : ∀ n ∈ i.numbers, n.toList ≠ [] := fun n hn => (hnum i hi n hn).toList_ne_nil
    have hd : ∀ n ∈ i.numbers, ∀ c ∈ n.toList, c.isDigit = true := fun n hn => (hnum i hi n hn).2
    have hjoined := Numbers.Listing.joined.ofValue_value hne hd
    have hlisted := Numbers.Listing.listed.ofValue_value hne hd
    exact ⟨hjoined, Numbers.count_intercalate hne hd,
      Bet.evaluate_congr (hjoined.trans hlisted.symm)⟩
  · intro slip S k hfin
    have hbooked : usage ([] ++ Book.playsOf slip (S.map .text) k (read g text).instructions) =
        _ := usage_append rfl
    rw [List.nil_append, mapM_stakesOf_playsOf hnum hfin] at hbooked
    refine ⟨_, hbooked, fun r => ?_⟩
    -- Risks of numbers are equal only if they are the same, so each key is a risk as it was
    -- staked on.
    rw [Amounts.mem_keys_record_nil, mem_keys_stakesIn]
    · simp only [Risk.of_text, Except.ok.injEq]
    · intro e he e' he'
      obtain ⟨s, _, j, _, n, _, hr⟩ := mem_keys_stakesIn.1 (List.mem_map.2 ⟨e, he, rfl⟩)
      obtain ⟨s', _, j', _, n', _, hr'⟩ := mem_keys_stakesIn.1 (List.mem_map.2 ⟨e', he', rfl⟩)
      rw [← hr, ← hr']
      exact Risk.ofNumber_beq_iff_eq

/-- What plays have beside their numbers. -/
def someDay : BetSlip :=
  ⟨.con, .null, .null, .text "d1", .null, .null, .null⟩

/-- A number that is repeated, and a parle in its greater spelling. -/
theorem booked_read_repeated :
    Numbers.ofValue (.text "12,12") = .ok ["12", "12"] ∧
    Numbers.count (.text "12,12") = .ok 2 ∧
    (∀ amount d limited prices,
      Bet.evaluate (some ⟨.text "fijo", .text "12,12", amount⟩) d limited prices =
        Bet.evaluate (some ⟨.text "fijo", .list [.text "12", .text "12"], amount⟩) d limited
          prices) ∧
    ∃ U, usage (Book.playsOf someDay [.text "s1", .text "s2"] 1
        (read .con "12 12 con 5f\n5934 con 7").instructions) = .ok U ∧
      Risk.ofNumber "s2" .parle "3459" ∈ U.map Prod.fst ∧
      Risk.ofNumber "s3" .fijo "12" ∉ U.map Prod.fst := by
  -- One slip with a number that is repeated and a parle in its other spelling.
  have hread : (read .con "12 12 con 5f\n5934 con 7").instructions =
      [⟨⟨.fijo, ["12", "12"], 5, 10, none⟩, 1, ["12"]⟩,
        ⟨⟨.parle, ["5934"], 7, 7, some .direct⟩, 2, []⟩] := by
    decide +kernel
  obtain ⟨hnumbers, hbooked⟩ := booked_read .con "12 12 con 5f\n5934 con 7"
  rw [hread] at hnumbers hbooked ⊢
  obtain ⟨hlist, hcount, hprize⟩ := hnumbers _ List.mem_cons_self
  obtain ⟨U, hU, hkeys⟩ := hbooked someDay ["s1", "s2"] 1 (by decide +kernel)
  refine ⟨hlist, hcount, hprize, U, hU, (hkeys _).2 ?_, fun h => ?_⟩
  · exact ⟨"s2", by decide, _, List.mem_cons_of_mem _ List.mem_cons_self, "5934", by decide, rfl⟩
  · obtain ⟨s, hs, i, _, n, _, hr⟩ := (hkeys _).1 h
    rw [Risk.of_text, Except.ok.injEq] at hr
    have hs3 : s = "s3" := congrArg Risk.schedule hr
    subst hs3
    exact absurd hs (by decide)

end Slip
end Lottery
