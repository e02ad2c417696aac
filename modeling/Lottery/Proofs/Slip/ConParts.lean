/-
# The two parts of a line with "con"

A line is divided at its first word "con" (`cut_con`).  Before it stands an
opening, a text from which numbers of one width are read (`Opening`): numbers with
gaps and joints between each two are one (`opening_joined`).  Behind it stand
tokens.  A token writes an amount for a slot (`Writes`), and of the amounts for one
slot the last one counts (`Amounts.read_of_writes`); a token that writes none spoils
the line, and so does a further word "con", which is such a token
(`Amounts.exists_read_behind_eq_error`).

The parts are read by `_con_numbers` and `_con_amounts`.
-/

import Lottery.Proofs.Computations
import Lottery.Proofs.Slip.Numerals
import Lottery.Proofs.Text.LetterCase
import Lottery.Proofs.Text.Spacing
import Mathlib.Data.List.Induction

namespace Lottery
namespace Slip

namespace Con

variable {left right : List Char}

/-! ### Characters -/

/-- A digit is its own small form, so it is not read for a letter. -/
theorem toLower_ne_of_isDigit {c d : Char} (h : c.isDigit = true) (hd : d.isDigit = false) :
    c.toLower ≠ d := by
  rw [Text.toLower_of_isDigit h]
  exact Text.ne_of_isDigit h hd

/-- A class that has neither has no character that is this letter in lower case. -/
theorem toLower_ne {p : Char → Bool} {c d : Char} (h : p c = true) (hd : p d = false)
    (hupper : p d.toUpper = false) : c.toLower ≠ d := by
  intro hc
  rcases Text.eq_or_eq_toUpper_of_toLower_eq hc with rfl | rfl
  · rw [h] at hd
    cases hd
  · rw [h] at hupper
    cases hupper

/-- A digit is no gap. -/
theorem isGap_of_isDigit {c : Char} (h : c.isDigit = true) : isGap c = false := by
  have hcomma : c ≠ ',' := Text.ne_of_isDigit h (by decide)
  have hsemi : c ≠ ';' := Text.ne_of_isDigit h (by decide)
  simp [isGap, Text.isBlank_of_isDigit h, hcomma, hsemi]

/-- A digit is no joint. -/
theorem isJoint_of_isDigit {c : Char} (h : c.isDigit = true) : isJoint c = false := by
  have hdot : c ≠ '.' := Text.ne_of_isDigit h (by decide)
  have hstar : c ≠ '*' := Text.ne_of_isDigit h (by decide)
  have hdash : c ≠ '-' := Text.ne_of_isDigit h (by decide)
  simp [isJoint, hdot, hstar, hdash]

/-- What may stand between two numbers. -/
def isMark (c : Char) : Bool :=
  isGap c || isJoint c

/-- A digit is no mark of a command. -/
theorem isMark_of_isDigit {c : Char} (h : c.isDigit = true) : isMark c = false := by
  rw [isMark, isGap_of_isDigit h, isJoint_of_isDigit h, Bool.or_false]

/-! ### The word -/

/-- Cutting a line at the word leaves at least one part. -/
theorem cut_ne_nil (w : Bool) (cs : List Char) : cut w cs ≠ [] := by
  unfold cut
  split
  · exact List.cons_ne_nil _ _
  · split
    · exact List.cons_ne_nil _ _
    · exact Text.attach_ne_nil _ _
  · exact Text.attach_ne_nil _ _

/-- No word "con" begins where an "o" does not come next. -/
theorem cut_cons {c : Char} {cs : List Char} (h : ∀ d ∈ cs.head?, d.toLower ≠ 'o') (w : Bool) :
    cut w (c :: cs) = Text.attach c (cut (Text.isWord c) cs) := by
  match cs with
  | [] | [_] => rfl
  | b :: d :: rest =>
    have hb : b.toLower ≠ 'o' := h b rfl
    rw [cut]
    simp [hb]

/-- Where there is no "o", there is no word "con". -/
theorem cut_eq_singleton {cs : List Char} (h : ∀ c ∈ cs, c.toLower ≠ 'o') (w : Bool) :
    cut w cs = [cs] := by
  induction cs generalizing w with
  | nil => rfl
  | cons c cs ih =>
    have hcs := fun d hd => h d (List.mem_cons_of_mem c hd)
    rw [cut_cons fun d hd => hcs d (List.mem_of_mem_head? hd), ih hcs]
    rfl

/-- A text without the word is its only piece. -/
theorem eq_of_cut_eq_singleton {w : Bool} {cs p : List Char} (h : cut w cs = [p]) : p = cs := by
  fun_induction cut w cs generalizing p with
  | case1 => exact (List.cons.inj h).1.symm
  | case2 _ _ _ _ rest => exact absurd (List.cons.inj h).2 (cut_ne_nil true rest)
  | case3 _ _ _ _ _ _ ih | case4 _ _ _ _ ih =>
    obtain ⟨q, hq, rfl⟩ := Text.attach_eq_singleton (cut_ne_nil _ _) h
    rw [ih hq]

/-- Two parts of a line with the word between them. -/
def lineOf (left right : List Char) : List Char :=
  left ++ [' ', 'c', 'o', 'n', ' '] ++ right

example : lineOf "12".toList "5f".toList = "12 con 5f".toList := by decide

/-- **The first word "con" is found** behind a text without an "o". -/
theorem cut_con (hleft : ∀ c ∈ left, c.toLower ≠ 'o') (right : List Char) (w : Bool) :
    cut w (lineOf left right) = (left ++ [' ']) :: cut true (' ' :: right) := by
  rw [lineOf]
  -- Character by character, each of them no beginning of the word: that has an "o" behind it.
  induction left generalizing w with
  | nil =>
    have hblank : Text.isWord ' ' = false := by decide +kernel
    have hcon : cut false ('c' :: 'o' :: 'n' :: ' ' :: right) = [] :: cut true (' ' :: right) := by
      rw [cut, if_pos]
      simp [Text.startsInWord, hblank]
    show cut w (' ' :: 'c' :: 'o' :: 'n' :: ' ' :: right) = _
    rw [cut_cons (by simp), hblank, hcon]
    rfl
  | cons c left ih =>
    have hrest := fun d hd => hleft d (List.mem_cons_of_mem c hd)
    show cut w (c :: (left ++ [' ', 'c', 'o', 'n', ' '] ++ right)) = _
    rw [cut_cons, ih hrest]
    · rfl
    · intro d hd
      cases left with
      | nil =>
        obtain rfl : ' ' = d := by simpa using hd
        decide
      | cons e left =>
        obtain rfl : e = d := by simpa using hd
        exact hrest e List.mem_cons_self

/-- What stands behind the first word "con", with single blanks around each further one. -/
def behind (right : List Char) : List Char :=
  Text.trim (" con ".toList.intercalate (cut true (' ' :: right)))

/-- Behind the word stands what was written there: without an o there is no second word to cut at.
-/
theorem behind_eq (h : ∀ c ∈ right, c.toLower ≠ 'o') (hr : Text.Flush right) :
    behind right = right := by
  have hcut : cut true (' ' :: right) = [' ' :: right] := by
    refine cut_eq_singleton (List.forall_mem_cons.2 ⟨by decide, h⟩) true
  rw [behind, hcut, List.intercalate_singleton, Text.trim, Text.strip_cons (by decide)]
  exact hr.trim

/-- The tokens are those that are written there, unless one of them is the word "con". -/
theorem words_behind (right : List Char) :
    Text.words Text.isBlank (behind right) = Text.words Text.isBlank right ∨
      ['c', 'o', 'n'] ∈ Text.words Text.isBlank (behind right) := by
  rw [behind, Text.words_trim]
  -- Either the word does not come again, or it is put back as a token of its own.
  match hcut : cut true (' ' :: right) with
  | [] => exact absurd hcut (cut_ne_nil true _)
  | [p] =>
    rw [List.intercalate_singleton, eq_of_cut_eq_singleton hcut]
    exact .inl (Text.words_run_append (List.forall_mem_singleton.2 (by decide)) right)
  | p :: q :: ps =>
    have hsplit : " con ".toList.intercalate (p :: q :: ps) =
        p ++ ' ' :: (['c', 'o', 'n'] ++ ' ' :: " con ".toList.intercalate (q :: ps)) := by
      rw [List.intercalate_cons_cons, List.append_assoc]
      rfl
    have hcon : Text.words Text.isBlank ['c', 'o', 'n'] = [['c', 'o', 'n']] := by decide
    rw [hsplit, Text.words_append_cons (by decide), Text.words_append_cons (by decide), hcon]
    exact .inr (List.mem_append_right _ (List.mem_append_left _ (List.mem_singleton_self _)))

/-! ### Openings -/

/-- A text before the word that reads as numbers of `w` digits. -/
structure Opening (w : Nat) (ns : List (List Char)) (left : List Char) : Prop where
  flush : Text.Flush left
  newline_not_mem : '\n' ∉ left
  toLower_ne_o : ∀ c ∈ left, c.toLower ≠ 'o'
  leftNumbers_eq : leftNumbers left = ns
  ofWidth : OfWidth w ns

namespace Opening

variable {w : Nat} {ns : List (List Char)} (h : Opening w ns left)
include h

/-- A line whose amounts are flush is flush, and one line, since its opening is. -/
theorem flush_lineOf (hr : Text.Flush right ∧ '\n' ∉ right) :
    Text.Flush (lineOf left right) ∧ '\n' ∉ lineOf left right := by
  refine ⟨h.flush.append hr.1 _, fun hmem => ?_⟩
  rcases List.mem_append.1 hmem with hmem | hmem
  · rcases List.mem_append.1 hmem with hmem | hmem
    · exact h.newline_not_mem hmem
    · exact absurd hmem (by decide)
  · exact hr.2 hmem

/-- **The numbers are read, and then the amounts behind the word.** -/
theorem line_eq (right : List Char) : line (lineOf left right) =
    if (behind right).isEmpty then .error .noAmounts
    else Amounts.read (behind right) >>= wagers ns w := by
  -- The blank that is left of the word is the margin of what stands before it.
  have htrim : Text.trim (left ++ [' ']) = left := by
    rw [Text.trim_append_blank (List.forall_mem_singleton.2 (by decide)), h.flush.trim]
  have hleft : left.isEmpty = false := by simpa using h.flush.ne_nil
  have hns : ns.isEmpty = false := by simpa using h.ofWidth.ne_nil
  obtain ⟨p, ps, hcut⟩ := List.exists_cons_of_ne_nil (cut_ne_nil true (' ' :: right))
  rw [line, cut_con h.toLower_ne_o, behind, hcut]
  dsimp only
  rw [htrim, hleft, h.leftNumbers_eq, hns, h.ofWidth.commonWidth?]
  rfl

/-- **A line is read as its amounts after its opening:** the opening gives the numbers, and no
character of the amounts can be taken for the word. -/
theorem line_eq_of_flush (hno : ∀ c ∈ right, c.toLower ≠ 'o') (hr : Text.Flush right) :
    line (lineOf left right) = Amounts.read right >>= wagers ns w := by
  have hright : right.isEmpty = false := by simpa using hr.ne_nil
  rw [h.line_eq, behind_eq hno hr, hright]
  rfl

end Opening

/-! ### Numbers -/

/-- Numbers are found token by token, so segments may be read one by one. -/
theorem numbers_flatMap (f : List Char → List (List Char)) (ts : List (List Char)) :
    numbers (ts.flatMap f) = ts.flatMap fun t => numbers (f t) := by
  simp only [numbers, List.map_flatMap, List.filter_flatMap]

/-- Where there is no "c", no segment is a command. -/
theorem segment_eq_numbers {cs : List Char} (h : ∀ c ∈ cs, c.toLower ≠ 'c') :
    segment cs = numbers (Text.words isJoint cs) := by
  -- Every command begins with a letter "c".
  have hexpand : expand? cs = none := by
    unfold expand?
    split
    · next c _ _ _ =>
      have hc : c.toLower ≠ 'c' := h c List.mem_cons_self
      rw [if_neg]
      simp [hc]
    · rfl
  rw [segment, hexpand, Option.getD_none]

/-- **Numbers with gaps and joints between each two are read back.** -/
theorem opening_joined {w : Nat} {ns : List (List Char)} (hns : OfWidth w ns) (hw : 0 < w)
    (h : Text.Joined (Text.Inline (Text.IsRun isMark)) ns left) : Opening w ns left := by
  have hnum := hns.isNumeral hw
  have hmem : ∀ c ∈ left, isMark c = true ∨ c.isDigit = true := by
    intro c hc
    rcases h.mem hc with ⟨j, hj, hc⟩ | ⟨n, hn, hc⟩
    · exact .inl (hj.1.forall_mem c hc)
    · exact .inr (hns.allNumbers n hn c hc)
  -- Digits and marks make no command, so each segment is its numbers.
  have hsegment : ∀ cs ∈ Text.words isGap left,
      segment cs = numbers (Text.words isJoint cs) := by
    intro cs hcs
    refine segment_eq_numbers fun c hc => ?_
    rcases hmem c (Text.mem_of_mem_words hcs c hc) with hc | hc
    · exact toLower_ne hc (by decide) (by decide)
    · exact toLower_ne_of_isDigit hc (by decide)
  refine ⟨h.flush fun n hn => (hnum n hn).flush, ?_, ?_, ?_, hns⟩
  · refine h.newline_not_mem fun n hn hc => ?_
    exact Text.ne_of_isDigit (hns.allNumbers n hn _ hc) (by decide) rfl
  · intro c hc
    rcases hmem c hc with hc | hc
    · exact toLower_ne hc (by decide) (by decide)
    · exact toLower_ne_of_isDigit hc (by decide)
  · have hwords : Text.words isMark left = ns :=
      h.words_eq (fun _ hj => hj.1) fun n hn => ⟨(hnum n hn).ne_nil,
        (hns.allNumbers n hn).all_eq_false fun _ => isMark_of_isDigit⟩
    rw [leftNumbers, List.flatMap_def, List.map_congr_left hsegment, ← List.flatMap_def,
      ← numbers_flatMap, ← Text.words_or]
    show numbers (Text.words isMark left) = ns
    rw [hwords, numbers_numerals hnum]

/-! ### Tokens -/

/-- Characters that are not blank, at least one of them. -/
def IsToken (t : List Char) : Prop :=
  t ≠ [] ∧ ∀ c ∈ t, Text.isBlank c = false

/-- Both parts of being a token are decidable. -/
instance instDecidableIsToken (t : List Char) : Decidable (IsToken t) :=
  decidable_of_iff (t ≠ [] ∧ (t.all fun c => Text.isBlank c == false) = true) (by simp [IsToken])

/-- Tokens with blanks between each two. -/
structure Tokens (ts : List (List Char)) (right : List Char) : Prop where
  isToken : ∀ t ∈ ts, IsToken t
  blanks : Text.Joined (Text.Inline (Text.IsRun Text.isBlank)) ts right

namespace Tokens

variable {ts : List (List Char)} (h : Tokens ts right)
include h

/-- The tokens that were joined are the words of the text. -/
theorem words_eq : Text.words Text.isBlank right = ts :=
  h.blanks.words_eq (fun _ hj => hj.1) h.isToken

/-- They have no margin and no line end. -/
theorem flush : Text.Flush right ∧ '\n' ∉ right := by
  refine ⟨h.blanks.flush fun t ht => ?_, h.blanks.newline_not_mem fun t ht hc => ?_⟩
  · exact Text.flush_of_not_blank (h.isToken t ht).1 (h.isToken t ht).2
  · exact absurd ((h.isToken t ht).2 _ hc) (by decide)

end Tokens

/-! ### Amounts -/

/-- The letters of a slot. -/
def Slot.letters : Slot → List Char
  | .plain => []
  | .fijo => ['f']
  | .corrido => ['c']
  | .parle => ['p']
  | .locked => ['c', 'a', 'n']

/-- Letters name a slot exactly if they are its own, in whatever case. -/
theorem Slot.ofLetters?_eq_some_iff {ls : List Char} {s : Slot} :
    ofLetters? ls = some s ↔ ls.map Char.toLower = s.letters := by
  rw [ofLetters?]
  constructor
  · intro h
    split at h <;> cases h <;> assumption
  · intro h
    rw [h]
    cases s <;> rfl

/-- No letter of a slot is a digit, or an "o" in any case. -/
theorem Slot.not_isDigit_and_toLower_ne {ls : List Char} {s : Slot}
    (h : ls.map Char.toLower = s.letters) : ∀ c ∈ ls, c.isDigit = false ∧ c.toLower ≠ 'o' := by
  intro c hc
  have hmem : c.toLower ∈ s.letters := h ▸ List.mem_map_of_mem hc
  have hletter : ∀ d ∈ s.letters, d.isDigit = false ∧ d ≠ 'o' := by
    cases s <;> simp [letters]
  refine ⟨?_, (hletter _ hmem).2⟩
  cases hdigit : c.isDigit with
  | false => rfl
  | true =>
    rw [← hdigit, ← Text.toLower_of_isDigit hdigit]
    exact (hletter _ hmem).1

/-- A token that writes an amount for a slot: a numeral that is not too long, and the letters of
the slot in any case. -/
inductive Writes : List Char → Slot × Nat → Prop where
  | mk {ds ls : List Char} {s : Slot} (hds : IsNumeral ds) (hmax : ds.length ≤ Text.maxDigits)
      (hls : ls.map Char.toLower = s.letters) : Writes (ds ++ ls) (s, Text.toNat ds)

/-- The amount of the last token for a slot, 0 if there is none. -/
def last (s : Slot) (es : List (Slot × Nat)) : Nat :=
  ((es.filter fun e => e.1 = s).getLast?.map Prod.snd).getD 0

/-- The last amount of a slot is that of the last entry, if the entry is for the slot. -/
theorem last_concat (s : Slot) (es : List (Slot × Nat)) (e : Slot × Nat) :
    last s (es ++ [e]) = if e.1 = s then e.2 else last s es := by
  rw [last, List.filter_append]
  by_cases h : e.1 = s <;> simp [h, last]

namespace Amounts

/-- The last amount for each slot. -/
def ofTokens (es : List (Slot × Nat)) : Amounts :=
  ⟨last .plain es, last .fijo es, last .corrido es, last .parle es, last .locked es⟩

/-- **Of the amounts for one slot the last one counts.** -/
theorem foldl_set (es : List (Slot × Nat)) :
    es.foldl (fun a e => a.set e.2 e.1) zero = ofTokens es := by
  induction es using List.reverseRecOn with
  | nil => rfl
  | append_singleton es e ih =>
    obtain ⟨s, n⟩ := e
    rw [List.foldl_append, ih]
    simp only [ofTokens, last_concat]
    cases s <;> rfl

/-- A numeral with the letters of a slot sets this slot to its amount. -/
theorem add_append {ds ls : List Char} {s : Slot} (hds : IsNumeral ds)
    (hls : ls.map Char.toLower = s.letters) (a : Amounts) :
    a.add (ds ++ ls) = (amount ds).map fun n => a.set n s := by
  have hdigit := fun c hc => (Slot.not_isDigit_and_toLower_ne hls c hc).1
  -- The letters behind the digits begin with none, so the two are told apart.
  have htake : (ds ++ ls).takeWhile Char.isDigit = ds := by
    rw [List.takeWhile_append_of_pos hds.allDigits]
    cases ls with
    | nil => simp
    | cons c cs =>
      rw [List.takeWhile_cons_of_neg (by simp [hdigit c List.mem_cons_self]), List.append_nil]
  have hdrop : (ds ++ ls).dropWhile Char.isDigit = ls := by
    rw [List.dropWhile_append_of_pos hds.allDigits, Text.dropWhile_eq_self hdigit]
  have hne : ds.isEmpty = false := by simpa using hds.ne_nil
  rw [add, htake, hdrop, Slot.ofLetters?_eq_some_iff.2 hls]
  dsimp only
  rw [hne]
  cases amount ds <;> rfl

/-- A token that writes an entry sets it. -/
theorem add_of_writes {t : List Char} {e : Slot × Nat} (h : Writes t e) (a : Amounts) :
    a.add t = .ok (a.set e.2 e.1) := by
  obtain ⟨hds, hmax, hls⟩ := h
  rw [add_append hds hls, amount_numeral hds hmax]
  rfl

/-- A token that is accepted writes an amount for a slot. -/
theorem exists_writes_of_add {t : List Char} {a b : Amounts} (h : a.add t = .ok b) :
    ∃ e, Writes t e := by
  have hall : AllDigits (t.takeWhile Char.isDigit) := fun c hc =>
    List.all_eq_true.1 List.all_takeWhile c hc
  unfold add at h
  dsimp only at h
  split at h
  · next s hs =>
    split at h
    · cases h
    · next hne =>
      -- What was taken as digits is a numeral, and the rest names the slot.
      have hds : IsNumeral (t.takeWhile Char.isDigit) :=
        ⟨fun hnil => hne (List.isEmpty_iff.2 hnil), hall⟩
      obtain ⟨n, hn, _⟩ := bind_eq_ok.1 h
      have hmax := length_le_of_amount_eq_ok hn
      rw [hall.digitsOf] at hmax
      have hwrites := Writes.mk hds hmax (Slot.ofLetters?_eq_some_iff.1 hs)
      rw [List.takeWhile_append_dropWhile] at hwrites
      exact ⟨_, hwrites⟩
  · cases h

/-- A token that writes no entry is refused. -/
theorem exists_add_eq_error {t : List Char} (ht : ∀ e, ¬ Writes t e) (a : Amounts) :
    ∃ err, a.add t = .error err := by
  cases h : a.add t with
  | error err => exact ⟨err, rfl⟩
  | ok b =>
    obtain ⟨e, he⟩ := exists_writes_of_add h
    exact absurd he (ht e)

/-- **Tokens that write amounts set the slots,** the last one of each slot for good. -/
theorem read_of_writes {es : List (Slot × Nat)}
    (h : List.Forall₂ Writes (Text.words Text.isBlank right) es) :
    read right = .ok (ofTokens es) := by
  rw [read, foldlM_eq_ok_of_forall₂ (h.imp fun _ _ ht => add_of_writes ht), foldl_set]

/-- **A token that writes no amount is an error,** whatever the others are. -/
theorem exists_read_eq_error {t : List Char} (ht : t ∈ Text.words Text.isBlank right)
    (hbad : ∀ e, ¬ Writes t e) : ∃ err, read right = .error err :=
  exists_foldlM_eq_error ht (exists_add_eq_error hbad) zero

/-- The word "con" writes none. -/
theorem not_writes_con (e : Slot × Nat) : ¬ Writes ['c', 'o', 'n'] e := by
  generalize hcon : ['c', 'o', 'n'] = t
  rintro ⟨hds, _, _⟩
  obtain ⟨d, ds, rfl⟩ := List.exists_cons_of_ne_nil hds.ne_nil
  have hd := hds.allDigits d List.mem_cons_self
  obtain rfl : 'c' = d := (List.cons.inj hcon).1
  exact absurd hd (by decide)

/-- So a token that writes none spoils the line even if there is such a word in it. -/
theorem exists_read_behind_eq_error {t : List Char} (ht : t ∈ Text.words Text.isBlank right)
    (hbad : ∀ e, ¬ Writes t e) : ∃ err, read (behind right) = .error err := by
  rcases words_behind right with h | h
  · exact exists_read_eq_error (h ▸ ht) hbad
  · exact exists_read_eq_error h not_writes_con

end Amounts

/-- No token of amounts has an o in it: digits have none, nor have the letters of slots. -/
theorem Writes.toLower_ne_o {t : List Char} {e : Slot × Nat} (h : Writes t e) :
    ∀ c ∈ t, c.toLower ≠ 'o' := by
  obtain ⟨hds, _, hls⟩ := h
  intro c hc
  rcases List.mem_append.1 hc with hc | hc
  · exact toLower_ne_of_isDigit (hds.allDigits c hc) (by decide)
  · exact (Slot.not_isDigit_and_toLower_ne hls c hc).2

/-- **The line asks for what its numbers ask for at the last amounts.** -/
theorem Opening.line_eq_of_writes {w : Nat} {ns ts : List (List Char)} {es : List (Slot × Nat)}
    (h : Opening w ns left) (ht : Tokens ts right) (hes : List.Forall₂ Writes ts es) :
    line (lineOf left right) = wagers ns w (.ofTokens es) := by
  have hts : ∀ t ∈ ts, ∀ c ∈ t, c.toLower ≠ 'o' :=
    ((List.forall₂_and_left _ _).1 (hes.imp fun _ _ he => ⟨he.toLower_ne_o, he⟩)).1
  -- No token has an "o" in it, so the word does not come again.
  have hright : ∀ c ∈ right, c.toLower ≠ 'o' := by
    intro c hc
    rcases ht.blanks.mem hc with ⟨j, hj, hc⟩ | ⟨t, ht, hc⟩
    · exact toLower_ne (hj.1.forall_mem c hc) (by decide) (by decide)
    · exact hts t ht c hc
  rw [← ht.words_eq] at hes
  rw [h.line_eq_of_flush hright ht.flush.1, bind_of_eq_ok (Amounts.read_of_writes hes)]

end Con
end Slip
end Lottery
