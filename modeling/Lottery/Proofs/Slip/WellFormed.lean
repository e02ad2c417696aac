/-
# Every instruction is well formed

A wager is well formed if it names at least one number, each with as many ASCII
digits as its play type has; its stake is at least 1; it has a mode exactly if
it is a parle; and its total goes with its stake:

| amount | stake | total |
| --- | --- | --- |
| as written | as written | stake × numbers |
| shared | total ÷ numbers | as written |

An amount is shared for the letters "can" and on a line of pairs of a locked
slip (`Grammar.Shares`).  Every accepted line has a wager and all its wagers are
well formed, in both grammars (`accepted_line`); `wellFormed_read` says so of
the instructions of a slip, each with the line that it is from.

Both grammars make their wagers by `_instruction`, which checks nothing: that its
callers do is what is shown.
-/

import Lottery.Proofs.Slip.Lines
import Lottery.Proofs.Slip.Numbers

namespace Lottery

/-- As many ASCII digits as the type has, and nothing else. -/
def PlayType.IsNumber (t : PlayType) (n : String) : Prop :=
  n.length = t.digits ∧ ∀ c ∈ n.toList, c.isDigit = true

/-- The number of a play type has digits, since no play type has numbers of none. -/
theorem PlayType.IsNumber.toList_ne_nil {t : PlayType} {n : String} (h : t.IsNumber n) :
    n.toList ≠ [] := by
  intro he
  have hlen : n.toList.length = t.digits := h.1
  rw [he] at hlen
  cases t <;> cases hlen

/-- A wager as it leaves a line; `shared` tells whether its amount is shared among its
numbers. -/
structure Wager.WellFormed (shared : Prop) (w : Wager) : Prop where
  numbers_ne_nil : w.numbers ≠ []
  isNumber : ∀ n ∈ w.numbers, w.playType.IsNumber n
  playType_mem : w.playType ∈ PlayType.all
  one_le_each : 1 ≤ w.each
  mode_isSome : w.mode.isSome ↔ w.playType = .parle
  total_eq : ¬ shared → w.total = w.each * w.numbers.length
  each_eq : shared → w.each = w.total / w.numbers.length
  le_total : shared → w.each * w.numbers.length ≤ w.total
  total_lt : shared → w.total < (w.each + 1) * w.numbers.length

namespace Slip

variable {t : PlayType} {gs : List (List Char)} {a : Nat} {mode : Option Mode} {shared : Prop}

/-- Numbers of one width are at least one. -/
theorem OfWidth.map_ne_nil {w : Nat} (h : OfWidth w gs) : gs.map String.ofList ≠ [] :=
  fun he => h.ne_nil (List.map_eq_nil_iff.1 he)

/-- Numbers of the width of a play type are numbers of it. -/
theorem OfWidth.isNumber (h : OfWidth t.digits gs) : ∀ n ∈ gs.map String.ofList, t.IsNumber n := by
  intro n hn
  obtain ⟨g, hg, rfl⟩ := List.mem_map.1 hn
  refine ⟨?_, ?_⟩
  · rw [String.length_ofList]
    exact h.length_eq g hg
  · rw [String.toList_ofList]
    exact h.allNumbers g hg

/-- A stake on every number. -/
theorem wellFormed_staking (h : OfWidth t.digits gs) (ha : a ≠ 0)
    (hm : mode.isSome ↔ t = .parle) (hs : ¬ shared) :
    (Wager.staking t (gs.map String.ofList) a mode).WellFormed shared where
  numbers_ne_nil := h.map_ne_nil
  isNumber := h.isNumber
  playType_mem := PlayType.mem_all t
  one_le_each := Nat.pos_of_ne_zero ha
  mode_isSome := hm
  total_eq _ := rfl
  each_eq hs' := absurd hs' hs
  le_total hs' := absurd hs' hs
  total_lt hs' := absurd hs' hs

/-- A total shared among numbers that it suffices for. -/
theorem wellFormed_sharing (h : OfWidth t.digits gs) (ha : gs.length ≤ a)
    (hm : mode.isSome ↔ t = .parle) (hs : shared) :
    (Wager.sharing t (gs.map String.ofList) a mode).WellFormed shared := by
  -- There are no more numbers than units of the amount, so each share is at least one.
  have hpos : 0 < (gs.map String.ofList).length := List.length_pos_iff.2 h.map_ne_nil
  have hle : (gs.map String.ofList).length ≤ a := by rwa [List.length_map]
  exact {
    numbers_ne_nil := h.map_ne_nil
    isNumber := h.isNumber
    playType_mem := PlayType.mem_all t
    one_le_each := Nat.div_pos hle hpos
    mode_isSome := hm
    total_eq := fun hs' => absurd hs hs'
    each_eq := fun _ => rfl
    le_total := fun _ => Nat.div_mul_le_self a _
    total_lt := fun _ => by
      rw [Nat.mul_comm]
      exact Nat.lt_mul_div_succ a hpos }

/-- Is the amount of a wager of the line `cs` shared among its numbers? -/
def Grammar.Shares (g : Grammar) (cs : List Char) (w : Wager) : Prop :=
  w.mode = some .lockedPairs ∨ g = .dash true ∧ '*' ∈ cs

/-- What an accepted line asks for: at least one wager, and well-formed ones only;
`shared` tells which of them share an amount. -/
structure Accepted (shared : Wager → Prop) (ws : List Wager) : Prop where
  ne_nil : ws ≠ []
  wellFormed : ∀ w ∈ ws, w.WellFormed (shared w)

/-- A line with one wager is accepted if the wager is well formed. -/
theorem Accepted.singleton {shared : Wager → Prop} {w : Wager} (h : w.WellFormed (shared w)) :
    Accepted shared [w] :=
  ⟨List.cons_ne_nil _ _, fun _ hw => List.mem_singleton.1 hw ▸ h⟩

/-! ### Lines with dashes -/

namespace Dash

variable {locked : Bool} {cs : List Char} {w : Wager} {ws : List Wager}

section Plain

/-! Without `*` nothing is shared. -/

variable {shared : Wager → Prop} (hs : ∀ w, w.mode ≠ some .lockedPairs → ¬ shared w)
include hs

/-- A line of numbers of two digits has a wager on fijo, on corrido, or one on each. -/
theorem accepted_twoDigits {first second : Nat} (hg : OfWidth 2 gs)
    (h : twoDigits (gs.map String.ofList) first second = .ok ws) : Accepted shared ws := by
  unfold twoDigits at h
  split at h
  · cases h
  · next hz =>
    obtain rfl := Except.ok.inj h
    constructor
    -- One of the amounts is not zero, so a wager is asked for.
    · by_cases hf : first = 0
      · have : second ≠ 0 := fun he => hz ⟨hf, he⟩
        simp [this]
      · simp [hf]
    · intro w hw
      rcases List.mem_append.1 hw with hw | hw <;>
        obtain ⟨ha, hw⟩ := List.mem_ite_nil_left.1 hw <;>
        obtain rfl := List.mem_singleton.1 hw
      · exact wellFormed_staking hg ha (by decide) (hs _ nofun)
      · exact wellFormed_staking hg ha (by decide) (hs _ nofun)

/-- A line of numbers of any other width has one wager. -/
theorem accepted_single (hg : OfWidth t.digits gs) (hm : mode.isSome ↔ t = .parle)
    (hl : mode ≠ some .lockedPairs) (h : single t (gs.map String.ofList) a mode = .ok ws) :
    Accepted shared ws := by
  unfold single at h
  split at h
  · cases h
  · next ha =>
    obtain rfl := Except.ok.inj h
    exact .singleton (wellFormed_staking hg ha hm (hs _ hl))

/-- **What a line without stars asks for is well formed.** -/
theorem accepted_plainLine (h : plainLine cs = .ok ws) : Accepted shared ws := by
  unfold plainLine at h
  split at h
  · next left piece more _ =>
    dsimp only at h
    split at h
    · cases h
    · split at h
      · cases h
      · next width hwidth =>
        obtain ⟨first, _, h⟩ := bind_eq_ok.1 h
        -- The common width decides on the play type, and its numbers have that width.
        have hg := ofWidth_commonWidth? hwidth (allNumbers_numbers _)
        split at h
        · split at h <;> obtain ⟨second, _, h⟩ := bind_eq_ok.1 h <;>
            exact accepted_twoDigits hs hg h
        · exact accepted_single (t := .centena) hs hg (by decide) (by decide) h
        · exact accepted_single (t := .parle) hs hg (by decide) (by decide) h
        · exact accepted_single (t := .tripleta) hs hg (by decide) (by decide) h
        · cases h
  · cases h

end Plain

/-- The wager of a line of pairs shares its amount on a locked slip, and stakes it on
every pair on any other. -/
theorem wellFormed_pairsLine {shared : Wager → Prop}
    (hs : ∀ w, w.mode = some .pairs → (shared w ↔ locked = true))
    (h : pairsLine locked cs = .ok w) : w.WellFormed (shared w) := by
  unfold pairsLine at h
  split at h
  · next left piece _ _ =>
    split at h
    · cases h
    · obtain ⟨a, _, h⟩ := bind_eq_ok.1 h
      dsimp only at h
      split at h
      · cases h
      · next hlen =>
        -- Two groups of two digits make one number of four.
        have hg : OfWidth 4 (pairs (groups left)) :=
          (ofWidth_groups (Nat.not_lt.1 hlen)).pairs (Nat.not_lt.1 hlen)
        split at h
        · cases h
        · next ha =>
          split at h
          · next hl =>
            split at h
            · cases h
            · next hle =>
              obtain rfl := Except.ok.inj h
              rw [List.length_map, Nat.not_lt] at hle
              exact wellFormed_sharing hg hle (by decide) ((hs _ rfl).2 hl)
          · next hl =>
            obtain rfl := Except.ok.inj h
            exact wellFormed_staking hg ha (by decide) fun hsh => hl ((hs _ rfl).1 hsh)
  · cases h

/-- **What a line with dashes asks for is well formed.** -/
theorem accepted_line (h : line locked cs = .ok ws) :
    Accepted ((Grammar.dash locked).Shares cs) ws := by
  unfold line at h
  split at h
  · next hstar =>
    -- A line with a star asks for one wager, which is shared exactly if the slip is locked.
    cases hp : pairsLine locked cs with
    | error e =>
      rw [hp] at h
      cases h
    | ok w =>
      rw [hp] at h
      obtain rfl := Except.ok.inj h
      refine .singleton (wellFormed_pairsLine (fun w hw => ?_) hp)
      simp [Grammar.Shares, hw, List.contains_iff_mem.1 hstar]
  · next hstar =>
    refine accepted_plainLine (fun w hw hsh => ?_) h
    rcases hsh with hsh | ⟨_, hsh⟩
    · exact hw hsh
    · exact hstar (List.contains_iff_mem.2 hsh)

end Dash

/-! ### Lines with "con" -/

namespace Con

variable {cs : List Char} {ws : List Wager}

/-- Numbers of two digits have a wager for each slot with an amount, the one on pairs included. -/
theorem accepted_twoDigits {amounts : Amounts} (hg : OfWidth 2 gs)
    (h : twoDigits gs amounts = .ok ws) :
    Accepted (fun w => w.mode = some .lockedPairs) ws := by
  unfold twoDigits at h
  extract_lets ns ps straight unit at h
  -- The straight wagers come first, and the pairs are added to them.
  have hstraight : ∀ w ∈ straight, w.WellFormed (w.mode = some .lockedPairs) := by
    intro w hw
    rcases List.mem_append.1 hw with hw | hw <;>
      obtain ⟨ha, hw⟩ := List.mem_ite_nil_left.1 hw <;>
      obtain rfl := List.mem_singleton.1 hw
    · exact wellFormed_staking hg ha (by decide) nofun
    · exact wellFormed_staking hg ha (by decide) nofun
  split at h
  · split at h
    · cases h
    · next hne =>
      obtain rfl := Except.ok.inj h
      exact ⟨fun he => hne (List.isEmpty_iff.2 he), hstraight⟩
  · next hpairs =>
    split at h
    · cases h
    · next hlen =>
      have hp := hg.pairs (Nat.not_lt.1 hlen)
      have hunit : ∀ w ∈ straight ++ unit, w.WellFormed (w.mode = some .lockedPairs) := by
        intro w hw
        rcases List.mem_append.1 hw with hw | hw
        · exact hstraight w hw
        · obtain ⟨ha, hw⟩ := List.mem_ite_nil_left.1 hw
          obtain rfl := List.mem_singleton.1 hw
          exact wellFormed_staking hp ha (by decide) nofun
      split at h
      · next hl =>
        obtain rfl := Except.ok.inj h
        have hparle : amounts.parle ≠ 0 := fun he => hpairs ⟨he, hl⟩
        exact ⟨by simp [unit, hparle], hunit⟩
      · split at h
        · cases h
        · next hle =>
          obtain rfl := Except.ok.inj h
          rw [List.length_map, Nat.not_lt] at hle
          refine ⟨List.concat_ne_nil _ _, fun w hw => ?_⟩
          rcases List.mem_append.1 hw with hw | hw
          · exact hunit w hw
          · obtain rfl := List.mem_singleton.1 hw
            exact wellFormed_sharing hp hle (by decide) rfl

/-- Numbers of any other width have the slot of their play type alone. -/
theorem accepted_single (hg : OfWidth t.digits gs) (hm : mode.isSome ↔ t = .parle)
    (hl : mode ≠ some .lockedPairs) (h : single t gs a mode = .ok ws) :
    Accepted (fun w => w.mode = some .lockedPairs) ws := by
  unfold single at h
  split at h
  · cases h
  · next ha =>
    obtain rfl := Except.ok.inj h
    exact .singleton (wellFormed_staking hg ha hm hl)

/-- So whatever the width is, the wagers are well formed. -/
theorem accepted_wagers {width : Nat} {amounts : Amounts} (hg : OfWidth width gs)
    (h : wagers gs width amounts = .ok ws) :
    Accepted (fun w => w.mode = some .lockedPairs) ws := by
  unfold wagers at h
  split at h
  · exact accepted_twoDigits hg h
  · exact accepted_single (t := .centena) hg (by decide) (by decide) h
  · exact accepted_single (t := .parle) hg (by decide) (by decide) h
  · exact accepted_single (t := .tripleta) hg (by decide) (by decide) h
  · cases h

/-- **What a line with the word asks for is well formed.** -/
theorem accepted_line (h : line cs = .ok ws) :
    Accepted (fun w => w.mode = some .lockedPairs) ws := by
  unfold line at h
  split at h
  · dsimp only at h
    split at h
    · cases h
    · split at h
      · cases h
      · split at h
        · cases h
        · split at h
          · cases h
          -- All that can be wrong with the two parts is behind, and the width decides.
          · next width hwidth =>
            obtain ⟨amounts, _, h⟩ := bind_eq_ok.1 h
            exact accepted_wagers (ofWidth_commonWidth? hwidth (allNumbers_leftNumbers _)) h
  · cases h

end Con

/-! ### Slips -/

variable {g : Grammar} {cs : List Char} {ws : List Wager}

/-- What an accepted line asks for, in either grammar. -/
theorem accepted_line (h : g.line cs = .ok ws) : Accepted (g.Shares cs) ws := by
  cases g with
  | dash locked => exact Dash.accepted_line h
  | con =>
    obtain ⟨hne, hw⟩ := Con.accepted_line h
    refine ⟨hne, fun w hmem => ?_⟩
    have hshares : Grammar.con.Shares cs w ↔ w.mode = some .lockedPairs :=
      or_iff_left fun hd => nomatch hd.1
    rw [hshares]
    exact hw w hmem

/-- Every wager of a line is well formed. -/
theorem wellFormed_of_mem_wagers {w : Wager} (h : w ∈ g.wagers cs) :
    w.WellFormed (g.Shares cs w) := by
  unfold Grammar.wagers at h
  cases hline : g.line cs with
  | error e =>
    rw [hline] at h
    exact absurd h List.not_mem_nil
  | ok ws =>
    rw [hline] at h
    exact (accepted_line hline).wellFormed w h

/-- An instruction of a value is well formed, whether its amount is shared or not. -/
theorem wellFormed_of_mem_readValue {v : Value} {i : Instruction}
    (h : i ∈ (readValue g v).instructions) : ∃ shared : Prop, i.WellFormed shared := by
  unfold readValue at h
  split at h
  · obtain ⟨cs, _, hw⟩ := wagers_of_mem_read h
    exact ⟨_, wellFormed_of_mem_wagers hw⟩
  · exact absurd h List.not_mem_nil

/-- **Every instruction is well formed.**  It is from a line of the text, names numbers of its
play type, stakes at least 1 on each, and its total is the stake on all of them, or, where
the amount is shared, the amount as it was written. -/
theorem wellFormed_read {text : String} {i : Instruction}
    (h : i ∈ (read g text).instructions) :
    ∃ cs, lineAt? text i.line = some cs ∧ i.WellFormed (g.Shares cs i.toWager) := by
  obtain ⟨cs, hl, hw⟩ := wagers_of_mem_read h
  exact ⟨cs, hl, wellFormed_of_mem_wagers hw⟩

/-- Seven shared among three pairs: two on each, and one that is charged and not staked. -/
theorem wellFormed_read_shared :
    (⟨⟨.parle, ["0112", "0134", "1234"], 2, 7, some .pairs⟩, 2, []⟩ : Instruction) ∈
        (read (.dash true) "5-5\n\n 1*12*34-7 ").instructions ∧
      ∃ cs, lineAt? "5-5\n\n 1*12*34-7 " 2 = some cs ∧
        Wager.WellFormed ((Grammar.dash true).Shares cs
            ⟨.parle, ["0112", "0134", "1234"], 2, 7, some .pairs⟩)
          ⟨.parle, ["0112", "0134", "1234"], 2, 7, some .pairs⟩ :=
  ⟨by decide +kernel, wellFormed_read (by decide +kernel :
    (⟨⟨.parle, ["0112", "0134", "1234"], 2, 7, some .pairs⟩, 2, []⟩ : Instruction) ∈
      (read (.dash true) "5-5\n\n 1*12*34-7 ").instructions)⟩

end Slip
end Lottery
