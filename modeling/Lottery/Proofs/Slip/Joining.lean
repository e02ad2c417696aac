/-
# Slips one below the other

A slip is read line by line, so of two slips one below the other each is read as
it is alone (`readLines_append`), the lines of the second numbered on
(`readLines_below`).  What they share is the count of keys: a number that one of
them flags is still flagged, and others may be (`keeps_flag`).  Which break
stands between two lines, blank lines, and blanks around a line do not matter;
`read_joins` is all of it together.

The lines are cut by `_split_lines` and read by `_parse_lines`; what is shared is
counted by `_attach_duplicates`.
-/

import Lottery.Proofs.Slip.Accounts
import Lottery.Proofs.Text.Breaks

namespace Lottery
namespace Slip

variable {g : Grammar} {n k : Nat}

/-- An instruction with its line below `k` others. -/
def Instruction.below (k : Nat) (i : Instruction) : Instruction :=
  { i with line := k + i.line }

namespace Outcome

/-- The outcome of lines below `k` others. -/
def below (k : Nat) (o : Outcome) : Outcome :=
  ⟨o.instructions.map (Instruction.below k), o.errors.map fun e => (k + e.1, e.2)⟩

/-- One outcome, and then another. -/
def append (o o' : Outcome) : Outcome :=
  ⟨o.instructions ++ o'.instructions, o.errors ++ o'.errors⟩

end Outcome

/-! ### Lines -/

/-- Lines after lines are read with the numbers that follow. -/
theorem readLines_append (g : Grammar) (n : Nat) (ls ms : List (List Char)) :
    readLines g n (ls ++ ms) = (readLines g n ls).append (readLines g (n + ls.length) ms) := by
  -- The number of the first line behind counts on from that of the lines before.
  induction ls generalizing n with
  | nil => rfl
  | cons l ls ih =>
    rw [List.cons_append, readLines, ih (n + 1), readLines, List.length_cons,
      Nat.add_comm ls.length 1, ← Nat.add_assoc]
    cases g.line l with
    | error e => rfl
    | ok ws =>
      simp only [Outcome.append, List.append_assoc]

/-- Numbering from further on only shifts the numbers. -/
theorem readLines_below (g : Grammar) (k n : Nat) (ls : List (List Char)) :
    readLines g (k + n) ls = (readLines g n ls).below k := by
  induction ls generalizing n with
  | nil => rfl
  | cons l ls ih =>
    rw [readLines, Nat.add_assoc, ih (n + 1), readLines]
    cases g.line l with
    | error e => rfl
    | ok ws =>
      simp only [Outcome.below, List.map_append, List.map_map]
      rfl

/-! ### Flags -/

/-- The keys of instructions come in their order. -/
theorem keys_append (g : Grammar) (is js : List Instruction) :
    keys g (is ++ js) = keys g is ++ keys g js :=
  List.flatMap_append

/-- Line numbers are no part of keys. -/
theorem keys_below (g : Grammar) (k : Nat) (is : List Instruction) :
    keys g (is.map (Instruction.below k)) = keys g is := by
  rw [keys, List.flatMap_map]
  rfl

/-- The second instruction is the first with perhaps more numbers flagged. -/
structure Instruction.Keeps (i j : Instruction) : Prop where
  toWager_eq : j.toWager = i.toWager
  line_eq : j.line = i.line
  duplicates_subset : i.duplicates ⊆ j.duplicates

/-- **Among more keys a number stays flagged.** -/
theorem keeps_flag {all all' : List (PlayType × String)} (h : ∀ key, all.count key ≤ all'.count key)
    (i : Instruction) : Instruction.Keeps (flag g all i) (flag g all' i) := by
  refine ⟨rfl, rfl, fun n hn => ?_⟩
  obtain ⟨hmem, hcount⟩ := List.mem_filter.1 (List.mem_eraseDups.1 hn)
  refine List.mem_eraseDups.2 (List.mem_filter.2 ⟨hmem, ?_⟩)
  rw [decide_eq_true_eq] at hcount ⊢
  exact Nat.lt_of_lt_of_le hcount (h _)

/-! ### Slips -/

/-- The outcome of a slip in two parts, the first of which has `n` lines. -/
structure Outcome.Joins (o : Outcome) (a : Outcome) (n : Nat) (b : Outcome) : Prop where
  errors_eq : o.errors = a.errors ++ (b.below n).errors
  instructions_keep :
    List.Forall₂ Instruction.Keeps (a.instructions ++ (b.below n).instructions) o.instructions
  perLotterySum_eq : o.perLotterySum = a.perLotterySum + b.perLotterySum

/-- A text is read by its lines alone. -/
theorem read_eq_of_lines_eq (g : Grammar) {t u : String}
    (h : Text.lines t.toList = Text.lines u.toList) : read g t = read g u := by
  rw [read, read, h]

/-- **Two slips one below the other are read as they are alone.** -/
theorem joins_of_lines_eq (g : Grammar) {t u v : String}
    (h : Text.lines v.toList = Text.lines t.toList ++ Text.lines u.toList) :
    (read g v).Joins (read g t) (Text.lines t.toList).length (read g u) := by
  have hread : readLines g 1 (Text.lines v.toList) =
      (readLines g 1 (Text.lines t.toList)).append
        ((readLines g 1 (Text.lines u.toList)).below (Text.lines t.toList).length) := by
    rw [h, readLines_append, Nat.add_comm, readLines_below]
  refine ⟨?_, ?_, ?_⟩
  · show (readLines g 1 (Text.lines v.toList)).errors = _
    rw [hread]
    rfl
  · show List.Forall₂ _ _ ((readLines g 1 (Text.lines v.toList)).instructions.map
      (flag g (keys g (readLines g 1 (Text.lines v.toList)).instructions)))
    -- Keys are counted in both slips together, so flags can only be added.
    simp only [hread, Outcome.append, Outcome.below, keys_append, keys_below, List.map_append]
    refine List.rel_append ?_ ?_
    · rw [read, List.forall₂_map_left_iff, List.forall₂_map_right_iff, List.forall₂_same]
      exact fun i _ => keeps_flag (fun key => by rw [List.count_append]; omega) i
    · rw [read]
      dsimp only
      rw [List.map_map, List.forall₂_map_left_iff, List.map_map, List.forall₂_map_right_iff,
        List.forall₂_same]
      exact fun i _ => keeps_flag (fun key => by rw [List.count_append]; omega) (i.below _)
  · rw [perLotterySum_read, perLotterySum_read, perLotterySum_read, h, List.flatMap_append,
      List.map_append, List.sum_append]

/-- **Reading goes line by line.**  With any break between them two slips are read as they are
alone, the lines of the second numbered on from those of the first; which break stands between
lines, blank lines among them and blanks around them make no difference. -/
theorem read_joins (g : Grammar) :
    (∀ t u j : String, Text.IsBreak j.toList →
      (read g (t ++ j ++ u)).Joins (read g t) (Text.lines t.toList).length (read g u)) ∧
    (∀ (ls ms : List (List Char)) (j k : List Char), Text.Respaced ls ms → Text.IsBreak j →
      Text.IsBreak k →
      read g (String.ofList (j.intercalate ms)) = read g (String.ofList (k.intercalate ls))) := by
  constructor
  · intro t u j hj
    refine joins_of_lines_eq g ?_
    rw [String.toList_append, String.toList_append, Text.lines_append_break hj]
  · intro ls ms j k h hj hk
    refine read_eq_of_lines_eq g ?_
    rw [String.toList_ofList, String.toList_ofList, h.lines_eq hj hk]

/-- A number that stands in both parts is flagged in neither of them and in the whole. -/
theorem read_joins_duplicate :
    Text.IsBreak "\r\n".toList ∧
    ((read .con ("12 con 5f\n3412 con x" ++ "\r\n" ++ "\t12 con 3f")).Joins
      ⟨[⟨⟨.fijo, ["12"], 5, 5, none⟩, 1, []⟩], [(2, .invalidToken "x")]⟩ 2
      ⟨[⟨⟨.fijo, ["12"], 3, 3, none⟩, 1, []⟩], []⟩) ∧
    read .con ("12 con 5f\n3412 con x" ++ "\r\n" ++ "\t12 con 3f") =
      ⟨[⟨⟨.fijo, ["12"], 5, 5, none⟩, 1, ["12"]⟩, ⟨⟨.fijo, ["12"], 3, 3, none⟩, 3, ["12"]⟩],
        [(2, .invalidToken "x")]⟩ ∧
    Text.Respaced ["12-5".toList, "13-5".toList]
      [" 12-5\t".toList, "  ".toList, "13-5 ".toList] ∧
    read (.dash true) " 12-5\t\r\n  \r\n13-5 " = read (.dash true) "12-5\n13-5" := by
  -- A number that stands once in each slip is flagged once they are joined.
  have hrespaced : Text.Respaced ["12-5".toList, "13-5".toList]
      [" 12-5\t".toList, "  ".toList, "13-5 ".toList] :=
    .line " ".toList _ "\t".toList (by decide) (by decide)
      (.blank (by decide) (.line [] _ " ".toList (by decide) (by decide) .nil))
  refine ⟨by decide, ?_, by decide +kernel, hrespaced, ?_⟩
  · have hjoins := (read_joins .con).1 "12 con 5f\n3412 con x" "\t12 con 3f" "\r\n" (by decide)
    have hfirst : read .con "12 con 5f\n3412 con x" =
        ⟨[⟨⟨.fijo, ["12"], 5, 5, none⟩, 1, []⟩], [(2, .invalidToken "x")]⟩ := by
      decide +kernel
    have hsecond : read .con "\t12 con 3f" = ⟨[⟨⟨.fijo, ["12"], 3, 3, none⟩, 1, []⟩], []⟩ := by
      decide +kernel
    have hlines : (Text.lines "12 con 5f\n3412 con x".toList).length = 2 := by decide +kernel
    rwa [hfirst, hsecond, hlines] at hjoins
  · have hspaced : String.ofList ("\r\n".toList.intercalate
        [" 12-5\t".toList, "  ".toList, "13-5 ".toList]) = " 12-5\t\r\n  \r\n13-5 " := by
      decide +kernel
    have hplain : String.ofList ("\n".toList.intercalate ["12-5".toList, "13-5".toList]) =
        "12-5\n13-5" := by
      decide +kernel
    rw [← hspaced, ← hplain]
    exact (read_joins (.dash true)).2 _ _ _ _ hrespaced (by decide) (by decide)

end Slip
end Lottery
