/-
# Slips in any letter case

Letters name the commands, the word "con" and the slots of amounts, each in any case.  So each
part of a line is read in lower case as it is written:

| part | in lower case |
| --- | --- |
| numbers, amounts, groups | the same (`numbers_lower`, `amount_lower`, `Dash.groups_lower`) |
| the pieces between the words "con" | the same pieces in lower case (`Con.cut_lower`) |
| commands and their tails | the same numbers (`Con.expand?_lower`) |
| tokens of amounts | the same amounts (`Con.Amounts.add_lower`) |

Only an error that quotes a token quotes it as it is written.  So a slip with dashes has the same
outcome in every case, and one with "con" the same but for the tokens that its errors quote
(`read_recased`).

The readers are those of `parse_text` and `parse_con_text`, from the line to its
tokens.
-/

import Lottery.Proofs.Slip.Accounts
import Lottery.Proofs.Slip.ConParts

namespace Lottery

namespace LineError

/-- The error with the token that it quotes in lower case. -/
def lower : LineError → LineError
  | .invalidToken token => .invalidToken (String.ofList (Text.lower token.toList))
  | e => e

/-- The same error, but for the letter case of a token that it quotes. -/
def Recased (e e' : LineError) : Prop :=
  e = e' ∨ ∃ s s', e = .invalidToken s ∧ e' = .invalidToken s' ∧ Text.Recased s.toList s'.toList

/-- Errors that read alike in small letters differ in letter case at most. -/
theorem recased_of_lower_eq {e e' : LineError} (h : e.lower = e'.lower) : e.Recased e' := by
  cases e with
  | invalidToken s =>
    cases e' with
    | invalidToken s' =>
      have hlow := String.ofList_injective (LineError.invalidToken.inj h)
      exact .inr ⟨s, s', rfl, rfl, Text.recased_iff.2 hlow⟩
    | _ => cases h
  | _ =>
    cases e' with
    | invalidToken => cases h
    | _ => exact .inl h

end LineError

namespace Slip

open Text (lower)

/-! ### Amounts and numbers -/

/-- An amount is made of its digits, so letter case does not matter to it. -/
@[simp] theorem amount_lower (piece : List Char) : amount (lower piece) = amount piece := by
  rw [amount, amount, Text.digitsOf_lower]

/-- An error of an amount quotes nothing, so it is its own form in small letters. -/
theorem mapError_amount (piece : List Char) :
    (amount piece).mapError LineError.lower = amount piece := by
  unfold amount
  dsimp only
  split <;> rfl

/-- Numbers are the digits of tokens. -/
theorem numbers_lower (tokens : List (List Char)) :
    numbers (tokens.map lower) = numbers tokens := by
  simp only [numbers, List.map_map, Function.comp_def, Text.digitsOf_lower]

/-! ### Lines with dashes -/

namespace Dash

variable {locked : Bool}

/-- Groups are cut at stars, and small letters change no star. -/
theorem groups_lower (left : List Char) : groups (lower left) = groups left := by
  rw [groups, groups, Text.pieces_lower (Text.apply_toLower (by decide)), numbers_lower]

/-- A line with stars reads alike in small letters, locked or not. -/
theorem pairsLine_lower (cs : List Char) : pairsLine locked (lower cs) = pairsLine locked cs := by
  rw [pairsLine, pairsLine, Text.pieces_lower (Text.apply_toLower (by decide))]
  generalize Text.pieces (· == '-') cs = ps
  match ps with
  | [] | [_] => rfl
  | left :: piece :: more =>
    simp only [List.map_cons, Text.isEmpty_lower, amount_lower, groups_lower]

/-- So does a line without stars. -/
theorem plainLine_lower (cs : List Char) : plainLine (lower cs) = plainLine cs := by
  have hgap : ∀ c, isGap c.toLower = isGap c := Text.apply_toLower (by decide)
  rw [plainLine, plainLine, Text.pieces_lower (Text.apply_toLower (by decide)),
    Text.trimmed_lower]
  generalize (((Text.pieces (· == '-') cs).map Text.trim).filter fun p => !p.isEmpty) = ps
  -- By the number of amounts, of which only the first two are read.
  match ps with
  | [] | [_] => rfl
  | [left, piece] =>
    simp only [List.map_cons, List.map_nil, Text.words_lower hgap, numbers_lower, amount_lower]
  | left :: piece :: second :: more =>
    simp only [List.map_cons, Text.words_lower hgap, numbers_lower, amount_lower]

/-- **A line with dashes is read alike in every case.** -/
theorem line_lower (cs : List Char) : line locked (lower cs) = line locked cs := by
  have hstar : ∀ c : Char, ('*' == c.toLower) = ('*' == c) :=
    Text.apply_toLower (by decide)
  have hcontains : (lower cs).contains '*' = cs.contains '*' := by
    simp only [List.contains_eq_any_beq, lower, List.any_map, Function.comp_def, hstar]
  rw [line, line, hcontains, pairsLine_lower, plainLine_lower]

end Dash

/-! ### Lines with "con" -/

namespace Con

variable {inWord : Bool}

/-- A letter is a word character in either case, so words begin at the same places. -/
theorem startsInWord_lower (cs : List Char) :
    Text.startsInWord (lower cs) = Text.startsInWord cs := by
  cases cs with
  | nil => rfl
  | cons c cs => exact Text.isWord_toLower c

/-- **The word is found at the same places.** -/
theorem cut_lower (cs : List Char) : cut inWord (lower cs) = (cut inWord cs).map lower := by
  -- Along the cutting itself, which looks at three characters at a time.
  fun_induction cut inWord cs with
  | case1 => rfl
  | case2 inWord a b c rest h ih =>
    show cut inWord (a.toLower :: b.toLower :: c.toLower :: lower rest) = _
    rw [cut, Text.toLower_toLower, Text.toLower_toLower, Text.toLower_toLower,
      startsInWord_lower, if_pos h, ih]
    rfl
  | case3 inWord a b c rest h ih =>
    show cut inWord (a.toLower :: b.toLower :: c.toLower :: lower rest) = _
    rw [cut, Text.toLower_toLower, Text.toLower_toLower, Text.toLower_toLower,
      startsInWord_lower, if_neg h, Text.isWord_toLower, ← Text.attach_lower, ← ih]
    rfl
  | case4 inWord a rest hshort ih =>
    rw [← Text.attach_lower, ← ih, ← Text.isWord_toLower]
    cases rest with
    | nil => rfl
    | cons b rest =>
      cases rest with
      | nil => rfl
      | cons c rest => exact absurd rfl (hshort b c rest)

/-! #### Numbers -/

/-- Gaps have no letters in them. -/
theorem isGap_toLower (c : Char) : isGap c.toLower = isGap c :=
  Text.apply_toLower (by decide) c

/-- Nor do joints. -/
theorem isJoint_toLower (c : Char) : isJoint c.toLower = isJoint c :=
  Text.apply_toLower (by decide) c

/-- Tails are made of digits, which have no case. -/
theorem tails?_lower (cs : List Char) : tails? (lower cs) = tails? cs := by
  -- Digits and joints have no case, and letters are refused in both.
  fun_induction tails? cs with
  | case1 a b h =>
    rw [Bool.and_eq_true] at h
    show tails? [a.toLower, b.toLower] = _
    rw [tails?, Text.toLower_of_isDigit h.1, Text.toLower_of_isDigit h.2, if_pos (by simp [h])]
  | case2 a b h =>
    show tails? [a.toLower, b.toLower] = _
    rw [tails?, Text.isDigit_toLower, Text.isDigit_toLower, if_neg h]
  | case3 a b joint rest hd ih =>
    simp only [Bool.and_eq_true] at hd
    show tails? (a.toLower :: b.toLower :: joint.toLower :: lower rest) = _
    rw [tails?, isJoint_toLower, Text.toLower_of_isDigit hd.1.1, Text.toLower_of_isDigit hd.1.2,
      if_pos (by simp [hd]), ih]
  | case4 a b joint rest hd =>
    show tails? (a.toLower :: b.toLower :: joint.toLower :: lower rest) = _
    rw [tails?, isJoint_toLower, Text.isDigit_toLower, Text.isDigit_toLower, if_neg hd]
  | case5 cs hpair hmore =>
    match cs with
    | [] | [_] => rfl
    | [a, b] => exact absurd rfl (hpair a b)
    | a :: b :: joint :: rest => exact absurd rfl (hmore a b joint rest)

/-- The tail of a command has its letters compared without regard to case. -/
theorem expandTail?_lower (hundred : Char) (cs : List Char) :
    expandTail? hundred (lower cs) = expandTail? hundred cs := by
  -- One letter, a letter and a digit, or a list of tails.
  match cs with
  | [] => rfl
  | [kind] =>
    show expandTail? hundred [kind.toLower] = _
    rw [expandTail?, expandTail?, Text.toLower_toLower]
  | [kind, d] =>
    have htails : tails? [kind.toLower, d.toLower] = tails? [kind, d] := tails?_lower [kind, d]
    show expandTail? hundred [kind.toLower, d.toLower] = _
    rw [expandTail?, expandTail?, htails, Text.toLower_toLower, Text.isDigit_toLower]
    by_cases hd : d.isDigit = true
    · rw [Text.toLower_of_isDigit hd]
    · simp only [hd, Bool.and_false]
      rfl
  | a :: b :: c :: rest =>
    show (tails? (lower (a :: b :: c :: rest))).map _ = _
    rw [tails?_lower]
    rfl

/-- Commands expand alike in either case. -/
theorem expand?_lower (cs : List Char) : expand? (lower cs) = expand? cs := by
  match cs with
  | [] | [_] | [_, _] => rfl
  | c :: hundred :: star :: tail =>
    show expand? (c.toLower :: hundred.toLower :: star.toLower :: lower tail) = _
    -- A star has no case, while an "x" may be written in either.
    have hstar : (star.toLower == '*') = (star == '*') :=
      Text.apply_toLower (f := (· == '*')) (by decide) star
    rw [expand?, expand?, Text.toLower_toLower, Text.toLower_toLower, Text.isDigit_toLower, hstar]
    split
    · next h =>
      simp only [Bool.and_eq_true] at h
      rw [Text.toLower_of_isDigit h.1.2, expandTail?_lower]
    · rfl

/-- What is no command is read for its digits, so every segment reads alike in small letters. -/
theorem segment_lower (cs : List Char) : segment (lower cs) = segment cs := by
  rw [segment, segment, expand?_lower, Text.words_lower isJoint_toLower, numbers_lower]

/-- So do all segments before the word. -/
theorem leftNumbers_lower (left : List Char) : leftNumbers (lower left) = leftNumbers left := by
  rw [leftNumbers, leftNumbers, Text.words_lower isGap_toLower, List.flatMap_map]
  simp only [segment_lower]

/-! #### Amounts -/

/-- The letters of a slot are told without regard to case. -/
theorem ofLetters?_lower (letters : List Char) :
    Slot.ofLetters? (lower letters) = Slot.ofLetters? letters := by
  have hlow : (lower letters).map Char.toLower = letters.map Char.toLower := by
    simp only [lower, List.map_map, Function.comp_def, Text.toLower_toLower]
  rw [Slot.ofLetters?, Slot.ofLetters?, hlow]

namespace Amounts

/-- **A token says the same in lower case,** and is quoted in lower case if it says nothing. -/
theorem add_lower (a : Amounts) (token : List Char) :
    add a (lower token) = (add a token).mapError LineError.lower := by
  have htake : (lower token).takeWhile Char.isDigit = lower (token.takeWhile Char.isDigit) := by
    rw [lower, List.takeWhile_map, lower]
    simp only [Function.comp_def, Text.isDigit_toLower]
  have hdrop : (lower token).dropWhile Char.isDigit = lower (token.dropWhile Char.isDigit) := by
    rw [lower, List.dropWhile_map, lower]
    simp only [Function.comp_def, Text.isDigit_toLower]
  -- The one thing that keeps its case is the token in an error.
  have hquote : LineError.lower (.invalidToken (String.ofList token)) =
      .invalidToken (String.ofList (lower token)) := by
    rw [LineError.lower, String.toList_ofList]
  unfold add
  dsimp only
  rw [htake, hdrop, ofLetters?_lower, Text.isEmpty_lower, amount_lower]
  cases Slot.ofLetters? (token.dropWhile Char.isDigit) with
  | none => exact (congrArg Except.error hquote).symm
  | some slot =>
    dsimp only
    split
    · exact (congrArg Except.error hquote).symm
    · rw [mapError_bind, mapError_amount]
      rfl

/-- Tokens in small letters set the same amounts one after the other; the error at the first one
that sets none quotes it in small letters. -/
theorem foldlM_add_lower (a : Amounts) (tokens : List (List Char)) :
    (tokens.map lower).foldlM add a = (tokens.foldlM add a).mapError LineError.lower := by
  induction tokens generalizing a with
  | nil => rfl
  | cons token tokens ih =>
    rw [List.map_cons, List.foldlM_cons, List.foldlM_cons, mapError_bind, add_lower]
    simp only [ih]

/-- Amounts in small letters are the same amounts, or the same error with small letters in its
quotation. -/
theorem read_lower (right : List Char) :
    read (lower right) = (read right).mapError LineError.lower := by
  rw [read, read, Text.words_lower Text.isBlank_toLower, foldlM_add_lower]

end Amounts

/-! #### Lines -/

/-- No error about the numbers of a line quotes a token. -/
theorem mapError_wagers (gs : List (List Char)) (width : Nat) (a : Amounts) :
    (wagers gs width a).mapError LineError.lower = wagers gs width a := by
  -- No error that stands behind the tokens quotes one.
  have hsingle : ∀ t n m, (single t gs n m).mapError LineError.lower = single t gs n m := by
    intro t n m
    unfold single
    split <;> rfl
  unfold wagers
  split
  · unfold twoDigits
    dsimp only
    repeat' split
    all_goals rfl
  · exact hsingle _ _ _
  · exact hsingle _ _ _
  · exact hsingle _ _ _
  · rfl

/-- **A line with "con" is read alike in every case,** but for the tokens that errors quote. -/
theorem line_lower (cs : List Char) : line (lower cs) = (line cs).mapError LineError.lower := by
  rw [line, line, cut_lower]
  cases cut false cs with
  | nil => rfl
  | cons first ps =>
    cases ps with
    | nil => rfl
    | cons second more =>
      -- The word between the pieces is put back in lower case anyway.
      have hright := Text.intercalate_lower (j := " con ".toList) (by decide) (second :: more)
      rw [List.map_cons] at hright
      simp only [List.map_cons, hright, Text.trim_lower, Text.isEmpty_lower, leftNumbers_lower,
        Amounts.read_lower]
      repeat' split
      · rfl
      · rfl
      · rfl
      · rfl
      · rw [mapError_bind]
        simp only [mapError_wagers]

end Con

/-! ### Slips -/

variable {g : Grammar} {f : LineError → LineError}

/-- The outcome with something else made of its errors. -/
def Outcome.mapErrors (f : LineError → LineError) (o : Outcome) : Outcome :=
  { o with errors := o.errors.map (Prod.map id f) }

/-- Rewording errors leaves the instructions alone. -/
@[simp] theorem mapErrors_instructions (f : LineError → LineError) (o : Outcome) :
    (o.mapErrors f).instructions = o.instructions :=
  rfl

/-- What lower case makes of the errors of a line, it makes of all errors of a slip. -/
theorem readLines_lower (h : ∀ cs, g.line (lower cs) = (g.line cs).mapError f) (n : Nat)
    (ls : List (List Char)) : readLines g n (ls.map lower) = (readLines g n ls).mapErrors f := by
  induction ls generalizing n with
  | nil => rfl
  | cons cs ls ih =>
    rw [List.map_cons, readLines, readLines, ih, h]
    cases g.line cs <;> rfl

/-- **If a grammar reads each line alike in small letters, it reads the whole text alike:** the
lines keep their numbers, and duplicates their flags. -/
theorem read_lower (h : ∀ cs, g.line (lower cs) = (g.line cs).mapError f) (t : String) :
    read g (String.ofList (lower t.toList)) = (read g t).mapErrors f := by
  unfold read
  rw [String.toList_ofList, Text.lines_lower, readLines_lower h]
  rfl

/-- **Letter case never matters.**  Two texts that differ in the case of ASCII letters only ask for
the same, and are rejected on the same lines for the same causes: with dashes altogether, and with
"con" but for the tokens that are quoted. -/
theorem read_recased {t u : String} (h : Text.Recased t.toList u.toList) :
    (read .con t).instructions = (read .con u).instructions ∧
      List.Forall₂ (fun x y => x.1 = y.1 ∧ x.2.Recased y.2)
        (read .con t).errors (read .con u).errors ∧
      (read .con t).perLotterySum = (read .con u).perLotterySum ∧
      ∀ locked, read (.dash locked) t = read (.dash locked) u := by
  -- Both slips are what they are in lower case, up to the tokens that are quoted.
  have hlow : lower t.toList = lower u.toList := Text.recased_iff.1 h
  have hcon : (read .con t).mapErrors LineError.lower = (read .con u).mapErrors LineError.lower := by
    rw [← read_lower (g := .con) Con.line_lower, hlow, read_lower (g := .con) Con.line_lower]
  have hinstructions := congrArg Outcome.instructions hcon
  rw [mapErrors_instructions, mapErrors_instructions] at hinstructions
  refine ⟨hinstructions, ?_, ?_, fun locked => ?_⟩
  · have herrors := congrArg Outcome.errors hcon
    rw [Outcome.mapErrors, Outcome.mapErrors, ← List.forall₂_eq_eq_eq, List.forall₂_map_left_iff,
      List.forall₂_map_right_iff] at herrors
    refine herrors.imp fun x y hxy => ?_
    obtain ⟨hline, herror⟩ := Prod.ext_iff.1 hxy
    exact ⟨hline, LineError.recased_of_lower_eq herror⟩
  · rw [Outcome.perLotterySum, Outcome.perLotterySum, hinstructions]
  · have hsame : ∀ cs, (Grammar.dash locked).line (lower cs) =
        ((Grammar.dash locked).line cs).mapError id := by
      intro cs
      rw [Grammar.line, Dash.line_lower]
      cases Dash.line locked cs <;> rfl
    have hid : ∀ o : Outcome, o.mapErrors id = o := by
      intro o
      rw [Outcome.mapErrors, Prod.map_id, List.map_id]
    rw [← hid (read _ t), ← hid (read _ u), ← read_lower hsame, hlow, read_lower hsame]

/-- A command, an amount for a slot and a word "con" in other cases ask for the same, and a token
that is no amount is quoted as it is written. -/
theorem read_recased_shouting :
    (read .con "c3Xp con 10\n12-25 CON 5F 9q").instructions =
        (read .con "C3xP Con 10\n12-25 con 5f 9Q").instructions ∧
      (read .con "c3Xp con 10\n12-25 CON 5F 9q").errors = [(2, .invalidToken "9q")] ∧
      (read .con "C3xP Con 10\n12-25 con 5f 9Q").errors = [(2, .invalidToken "9Q")] ∧
      (read .con "c3Xp con 10\n12-25 CON 5F 9q").perLotterySum = 100 :=
  ⟨(read_recased (by decide)).1, by decide +kernel, by decide +kernel, by decide +kernel⟩

end Slip
end Lottery
