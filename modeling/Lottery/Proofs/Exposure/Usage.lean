/-
# Usage is recorded stake by stake

A play stakes its amount on each of its numbers, so a list of plays is a list of
stakes (`stakesOf`), and its usage records them one after the other
(`foldlM_addPlay`).  What is recorded for a risk is what was recorded before,
and then the stakes on it in their order, added as doubles (`get_record`); and
nothing is recorded for any other risk (`mem_keys_record_nil`).

One stake is one round of the inner loop of `usage_from_plays`.
-/

import Lottery.Exposure.Usage
import Lottery.Proofs.Computations

namespace Lottery
namespace Exposure

/-! ### Stakes -/

/-- The stake that a play puts on one of its numbers. -/
def stakeOn (p : Play) (number : String) : Except Fault (Risk × Binary64) := do
  let risk ← Risk.of p.scheduleId p.playType (.text number)
  let risk ← risk.asKey
  let stake ← p.amount.amount
  .ok (risk, stake)

/-- The stakes of a play, number by number. -/
def stakesOf (p : Play) : Except Fault (List (Risk × Binary64)) := do
  let numbers ← Numbers.ofValue p.numbers
  numbers.mapM (stakeOn p)

namespace Amounts

/-- The amounts with a stake added. -/
def add (a : Amounts) (e : Risk × Binary64) : Amounts :=
  a.put e.1 ((a.get e.1).add e.2)

/-- The amounts with some stakes added, one after the other. -/
def record (a : Amounts) (stakes : List (Risk × Binary64)) : Amounts :=
  stakes.foldl add a

end Amounts

/-- A number adds the stake that a play puts on it. -/
theorem addNumber_eq (p : Play) (a : Amounts) (number : String) :
    addNumber p a number = (stakeOn p number).map a.add := by
  unfold addNumber stakeOn
  -- The three things that may fail come in the same order on both sides.
  cases Risk.of p.scheduleId p.playType (.text number) with
  | error e => rfl
  | ok r =>
    show (r.asKey >>= _) = (r.asKey >>= _).map _
    cases r.asKey with
    | error e => rfl
    | ok r =>
      show (p.amount.amount >>= _) = (p.amount.amount >>= _).map _
      cases p.amount.amount <;> rfl

/-- A play adds its stakes. -/
theorem addPlay_eq (a : Amounts) (p : Play) : addPlay a p = (stakesOf p).map a.record := by
  unfold addPlay stakesOf
  cases Numbers.ofValue p.numbers with
  | error e => rfl
  | ok numbers =>
    -- A step of the fold is a computation first and an addition behind it.
    have h : addNumber p = fun a n => (stakeOn p n).map a.add := by
      funext a n
      exact addNumber_eq p a n
    show numbers.foldlM (addNumber p) a = (numbers.mapM (stakeOn p)).map _
    rw [h, foldlM_eq_map_mapM]
    rfl

/-- **Plays add the stakes of all of them.** -/
theorem foldlM_addPlay (ps : List Play) (a : Amounts) :
    ps.foldlM addPlay a = (ps.mapM stakesOf).map fun ss => a.record ss.flatten := by
  have h : addPlay = fun a p => (stakesOf p).map a.record := by
    funext a p
    exact addPlay_eq a p
  rw [h, foldlM_eq_map_mapM]
  simp only [Amounts.record, List.foldl_flatten]
  rfl

/-- What plays add to a usage comes after it. -/
theorem usage_append {ps qs : List Play} {a : Amounts} (h : usage ps = .ok a) :
    usage (ps ++ qs) = (qs.mapM stakesOf).map fun ss => a.record ss.flatten := by
  unfold usage at h ⊢
  rw [List.foldlM_append, h, ← foldlM_addPlay]
  rfl

/-! ### What is recorded for a risk -/

namespace Amounts

/-- Equal risks have one amount. -/
theorem get_congr {r s : Risk} (h : (r == s) = true) (a : Amounts) : a.get r = a.get s := by
  rw [get, get, Entries.lookup_congr h]

/-- After a stake is added, the risks equal to its risk have it too, and all others what they had.
-/
theorem lookup_add (a : Amounts) (e : Risk × Binary64) (r : Risk) :
    (a.add e).lookup r = if r == e.1 then some ((a.get r).add e.2) else a.lookup r := by
  rw [add, Entries.lookup_put]
  split
  · next h => rw [get_congr h]
  · rfl

/-- The same, where nothing staked counts as zero. -/
theorem get_add (a : Amounts) (e : Risk × Binary64) (r : Risk) :
    (a.add e).get r = if r == e.1 then (a.get r).add e.2 else a.get r := by
  rw [add, get, Entries.lookup_put]
  split
  · next h => rw [get_congr h, Option.getD_some]
  · rfl

/-- **What is recorded for a risk is the sum of the stakes on it,** in their order, after what
was recorded before. -/
theorem get_record (a : Amounts) (stakes : List (Risk × Binary64)) (r : Risk) :
    (a.record stakes).get r =
      ((stakes.filter fun e => r == e.1).map Prod.snd).foldl Binary64.add (a.get r) := by
  induction stakes generalizing a with
  | nil => rfl
  | cons e stakes ih =>
    show ((a.add e).record stakes).get r = _
    rw [ih, get_add, List.filter_cons]
    split <;> rfl

/-- The entry of a risk depends on the stakes on it, and on the entry there was before. -/
theorem lookup_record (a : Amounts) (stakes : List (Risk × Binary64)) (r : Risk) :
    (a.record stakes).lookup r = ((stakes.filter fun e => r == e.1).map Prod.snd).foldl
      (fun amount x => some ((amount.getD (.zero false)).add x)) (a.lookup r) := by
  induction stakes generalizing a with
  | nil => rfl
  | cons e stakes ih =>
    show ((a.add e).record stakes).lookup r = _
    rw [ih, lookup_add, List.filter_cons]
    split <;> rfl

end Amounts

/-! ### Which risks are recorded -/

namespace Amounts

variable {a : Amounts} {stakes : List (Risk × Binary64)} {r : Risk}

/-- Recording stakes brings in no risks but theirs. -/
theorem mem_keys_record (h : r ∈ (a.record stakes).map Prod.fst) :
    r ∈ a.map Prod.fst ∨ r ∈ stakes.map Prod.fst := by
  induction stakes generalizing a with
  | nil => exact .inl h
  | cons e stakes ih =>
    rcases ih (a := a.add e) h with h | h
    · rcases Entries.mem_keys_put h with rfl | h
      · exact .inr List.mem_cons_self
      · exact .inl h
    · exact .inr (List.mem_cons_of_mem _ h)

/-- A risk has an amount if it had one, or if there is a stake on it. -/
theorem isSome_lookup_record : ((a.record stakes).lookup r).isSome = true ↔
    (a.lookup r).isSome = true ∨ ∃ e ∈ stakes, (r == e.1) = true := by
  induction stakes generalizing a with
  | nil => simp [record]
  | cons e stakes ih =>
    show (((a.add e).record stakes).lookup r).isSome = true ↔ _
    rw [ih, lookup_add]
    by_cases he : (r == e.1) = true <;> simp [he]

/-- **The risks with an amount are those that are staked on,** where equal risks are the same. -/
theorem mem_keys_record_nil (hsame : ∀ e ∈ stakes, ∀ e' ∈ stakes,
      (e.1 == e'.1) = true ↔ e.1 = e'.1) :
    r ∈ (record [] stakes).map Prod.fst ↔ r ∈ stakes.map Prod.fst := by
  constructor
  · exact fun h => (mem_keys_record h).resolve_left List.not_mem_nil
  · intro h
    obtain ⟨e, he, rfl⟩ := List.mem_map.1 h
    have hsome : ((record [] stakes).lookup e.1).isSome = true :=
      isSome_lookup_record.2 (.inr ⟨e, he, (hsame e he e he).2 rfl⟩)
    -- The entry is found under a key that is equal to the risk, and `hsame` makes it the risk
    -- itself.
    obtain ⟨e', he', hbeq⟩ := List.lookup_isSome_iff.1 hsome
    obtain ⟨k, hk, hke⟩ := List.mem_map.1
      ((mem_keys_record (List.mem_map.2 ⟨e', he', rfl⟩)).resolve_left List.not_mem_nil)
    rw [← hke] at hbeq
    rw [(hsame e he k hk).1 hbeq, hke]
    exact List.mem_map.2 ⟨e', he', rfl⟩

end Amounts

/-! ### Numbers that are texts -/

namespace Risk

/-- The risk of a number of a play type in a schedule. -/
def ofNumber (schedule : String) (t : PlayType) (n : String) : Risk :=
  ⟨schedule, .text t.name, .text (if t = .parle then Parle.canonical n else n)⟩

/-- The risk of texts: a parle in its canonical spelling, any other number as it is. -/
theorem of_text (s : String) (t : PlayType) (n : String) :
    Risk.of (.text s) (.text t.name) (.text n) = .ok (ofNumber s t n) := by
  cases t <;> rfl

/-- The risk of a number of any play type, known or not. -/
def named (schedule playType number : String) : Risk :=
  ⟨schedule, .text playType,
    .text (if playType = PlayType.parle.name then Parle.canonical number else number)⟩

/-- A number of a named play type is a risk in every schedule that can be written. -/
theorem of_written {v : Value} {s : String} (h : v.written = .ok s) (t n : String) :
    Risk.of v (.text t) (.text n) = .ok (named s t n) := by
  unfold Risk.of named
  rw [Value.text_beq_text, h]
  by_cases ht : t = PlayType.parle.name
  · rw [if_pos (beq_iff_eq.2 ht), if_pos ht]
    rfl
  · rw [if_neg fun h => ht (beq_iff_eq.1 h), if_neg ht]
    rfl

/-- Texts name a risk, whatever the play type is. -/
theorem exists_of_texts (s t n : String) :
    ∃ m, Risk.of (.text s) (.text t) (.text n) = .ok ⟨s, .text t, .text m⟩ :=
  ⟨_, of_written (Value.written_text s) t n⟩

/-- Only the risk of a number is equal to it. -/
theorem beq_named_iff {k : Risk} {s t n : String} :
    (k == named s t n) = true ↔ k = named s t n := by
  rw [Risk.beq_iff]
  obtain ⟨s', t', n'⟩ := k
  simp only [named, Value.beq_text_iff, Risk.mk.injEq]

/-- Risks of numbers are equal if schedule, play type and canonical number are. -/
theorem ofNumber_beq_iff {s s' : String} {t t' : PlayType} {n n' : String} :
    (ofNumber s t n == ofNumber s' t' n') = true ↔
      s = s' ∧ t = t' ∧ (if t = .parle then Parle.canonical n else n) =
        (if t' = .parle then Parle.canonical n' else n') := by
  have hname : t.name = t'.name ↔ t = t' := by
    rw [← PlayType.ofName?_eq_some_iff, PlayType.ofName?_name, Option.some_inj, eq_comm]
  rw [Risk.beq_iff]
  simp only [ofNumber, Value.text_beq_text, beq_iff_eq, hname]

/-- A risk is equal to itself. -/
theorem ofNumber_beq_self (s : String) (t : PlayType) (n : String) :
    (ofNumber s t n == ofNumber s t n) = true :=
  ofNumber_beq_iff.2 ⟨rfl, rfl, rfl⟩

/-- Risks of numbers are equal if they are the same. -/
theorem ofNumber_beq_iff_eq {s s' : String} {t t' : PlayType} {n n' : String} :
    (ofNumber s t n == ofNumber s' t' n') = true ↔ ofNumber s t n = ofNumber s' t' n' := by
  constructor
  · intro h
    obtain ⟨rfl, rfl, hn⟩ := ofNumber_beq_iff.1 h
    rw [ofNumber, ofNumber, hn]
  · intro h
    rw [← h]
    exact ofNumber_beq_self s t n

end Risk

end Exposure
end Lottery
