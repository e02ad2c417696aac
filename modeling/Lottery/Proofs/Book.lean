/-
# What a session keeps

A step does one of few things to the book (`Moves`):

| step | answer | the book after it |
| --- | --- | --- |
| one that cannot be done | its fault | as it was |
| a question | any | as it was |
| a slip, refused | the violations | as it was |
| a slip, taken | no violation | with a play for each instruction and schedule |
| a play | how many there are | with the play |
| a result | any | with one more row |
| prices | the table | with the table that was validated |
| limited numbers | any | with those of one schedule |
| a limit | what it limits | with the limit |

`moves_apply` says so of every step.  What holds of whole sessions follows from it by
one induction on the steps (`run_induction`): plays and rows stay where they are
(`onward_run`), the prices in use are always such as are validated as themselves
(`isValidated_run`), and each play was recorded or stands for an instruction of a
slip, with its place in the book for an id (`origin_run`).  So the ids of the plays
count them, if none was recorded as it is (`map_id_run`).
-/

import Lottery.Book
import Lottery.Proofs.Decimal.Layout
import Lottery.Proofs.Price.Validity

namespace Lottery
namespace Book

variable {b b' : Book} {s : Step} {a : Answer} {slip : BetSlip}

/-! ### One step -/

/-- Does a step only ask? -/
def Step.Asks : Step → Prop
  | .usage | .settle | .group _ | .groupBy _ | .daily => True
  | _ => False

/-- What a slip wagers. -/
def wagersOf (slip : BetSlip) : List Wager :=
  (Slip.readValue slip.grammar slip.text).instructions.map fun i => i.toWager

/-- A step's answer, and what it makes of a book. -/
inductive Moves (b : Book) : Step → Answer → Book → Prop where
  /-- What ends in a fault is not done. -/
  | fault {s : Step} (f : Fault) : Moves b s (.fault f) b
  | asked {s : Step} {a : Answer} (hs : s.Asks) : Moves b s a b
  /-- A slip with violations is not taken. -/
  | refused {slip : BetSlip} {found : List Exposure.Violation} (hne : found ≠ []) :
      Moves b (.bet slip)
        (.bet found (Slip.readValue slip.grammar slip.text).errors b.plays.length) b
  /-- A slip with none is taken whole. -/
  | booked {slip : BetSlip} {U : Exposure.Amounts} {schedules : List Value} {names : List String}
      (hU : Exposure.usage b.plays = .ok U)
      (hschedules : Exposure.schedulesFor (wagersOf slip) slip.schedules = .ok schedules)
      (hnames : schedules.mapM Value.written = .ok names)
      (hnone : Exposure.violations (wagersOf slip) names b.limits U = .ok [])
      {plays : List Play}
      (hplays : plays = b.plays ++ playsOf slip schedules (b.plays.length + 1)
        (Slip.readValue slip.grammar slip.text).instructions) :
      Moves b (.bet slip) (.bet [] (Slip.readValue slip.grammar slip.text).errors plays.length)
        { b with plays }
  | played (p : Play) : Moves b (.play p) (.play (b.plays ++ [p]).length)
      { b with plays := b.plays ++ [p] }
  /-- A result is kept, even if the results cannot be told then. -/
  | reported {row : ResultRow} {a : Answer} :
      Moves b (.result row) a { b with rows := b.rows ++ [row] }
  | priced {raw : Value} {t : Price.Table} (ht : Price.Table.build raw = .ok t) :
      Moves b (.prices raw) (.prices t) { b with prices := t }
  /-- Limited numbers are kept, even if they cannot be put in order. -/
  | restricted {schedule numbers : Value} {a : Answer} (key : Value) (ns : List String) :
      Moves b (.limited schedule numbers) a { b with limited := b.limited.put key ns }
  | limited {schedule playType number amount : Value} (r : Exposure.Risk) (x : Binary64) :
      Moves b (.limit schedule playType number amount) (.limit r)
        { b with limits.numbers := b.limits.numbers.put r x }
  | limitedType {playType : String} {amount : Value} (x : Binary64) :
      Moves b (.playTypeLimit playType amount)
        (.playTypeLimits (b.limits.playTypes.put playType x))
        { b with limits.playTypes := b.limits.playTypes.put playType x }

/-- What is committed, or is not for a fault. -/
theorem moves_commit {x : Except Fault (Answer × Book)}
    (h : ∀ a b', x = .ok (a, b') → b.Moves s a b') :
    b.Moves s (b.commit x).1 (b.commit x).2 := by
  cases x with
  | ok r => exact h r.1 r.2 rfl
  | error f => exact .fault f

/-- Does a computation leave the book as it is? -/
def Keeps (b : Book) (x : Except Fault (Answer × Book)) : Prop :=
  ∀ r, x = .ok r → r.2 = b

/-- An answer with the book as it was. -/
theorem keeps_ok (b : Book) (a : Answer) : b.Keeps (.ok (a, b)) := by
  intro r h
  rw [← Except.ok.inj h]

/-- What is computed before does not matter: only the last step gives a book. -/
theorem keeps_bind {α : Type} {x : Except Fault α} {f : α → Except Fault (Answer × Book)}
    (h : ∀ y, b.Keeps (f y)) : b.Keeps (x >>= f) := by
  intro r hr
  obtain ⟨y, _, hy⟩ := bind_eq_ok.1 hr
  exact h y r hy

/-- Committing such a computation changes nothing, fault or not. -/
theorem Keeps.commit_snd {x : Except Fault (Answer × Book)} (h : b.Keeps x) :
    (b.commit x).2 = b := by
  cases x with
  | ok r => exact h r rfl
  | error f => rfl

/-- A question leaves the book as it is. -/
theorem moves_asked {x : Except Fault (Answer × Book)} (hs : s.Asks) (h : b.Keeps x) :
    b.Moves s (b.commit x).1 (b.commit x).2 := by
  rw [h.commit_snd]
  exact .asked hs

/-- A slip that brings no fault is taken or refused. -/
theorem moves_take (h : b.take slip = .ok (a, b')) : b.Moves (.bet slip) a b' := by
  obtain ⟨U, hU, h⟩ := bind_eq_ok.1 h
  obtain ⟨schedules, hschedules, h⟩ := bind_eq_ok.1 h
  obtain ⟨names, hnames, h⟩ := bind_eq_ok.1 h
  obtain ⟨found, hfound, h⟩ := bind_eq_ok.1 h
  -- Whether there are violations decides between the two ways.
  cases found with
  | nil =>
    cases h
    exact .booked hU hschedules hnames hfound rfl
  | cons v vs =>
    cases h
    exact .refused (List.cons_ne_nil v vs)

/-- **What a step does.** -/
theorem moves_apply (b : Book) (s : Step) : b.Moves s (b.apply s).1 (b.apply s).2 := by
  cases s with
  | prices raw =>
    refine moves_commit fun a b' h => ?_
    obtain ⟨t, ht, h⟩ := bind_eq_ok.1 h
    cases h
    exact .priced ht
  | limited schedule numbers =>
    rw [apply]
    cases hlimited : b.withLimited schedule numbers with
    | error f => exact .fault f
    | ok r =>
      obtain ⟨keys, hkeys, h⟩ := bind_eq_ok.1 hlimited
      obtain ⟨key, hkey, h⟩ := bind_eq_ok.1 h
      cases h
      dsimp only
      -- The numbers stay even where they have no order.
      rw [Keeps.commit_snd (keeps_bind fun sorted => keeps_ok _ _)]
      exact .restricted key _
  | result row =>
    rw [apply, Keeps.commit_snd (keeps_bind fun results => keeps_ok _ _)]
    exact .reported
  | limit schedule playType number amount =>
    refine moves_commit fun a b' h => ?_
    obtain ⟨r, _, h⟩ := bind_eq_ok.1 h
    obtain ⟨x, _, h⟩ := bind_eq_ok.1 h
    obtain ⟨r', _, h⟩ := bind_eq_ok.1 h
    cases h
    exact .limited r' x
  | playTypeLimit playType amount =>
    refine moves_commit fun a b' h => ?_
    obtain ⟨x, _, h⟩ := bind_eq_ok.1 h
    cases h
    exact .limitedType x
  | bet slip => exact moves_commit fun a b' h => moves_take h
  | play p => exact .played p
  | usage => exact moves_asked trivial (keeps_bind fun _ => keeps_bind fun _ => keeps_ok _ _)
  | settle => exact moves_asked trivial (keeps_bind fun _ => keeps_bind fun _ => keeps_ok _ _)
  | group name =>
    exact moves_asked trivial
      (keeps_bind fun _ => keeps_bind fun _ => keeps_bind fun _ => keeps_ok _ _)
  | groupBy g => exact moves_asked trivial (keeps_bind fun _ => keeps_bind fun _ => keeps_ok _ _)
  | daily => exact moves_asked trivial (keeps_bind fun _ => keeps_bind fun _ => keeps_ok _ _)

/-- **A step that ends in a fault takes nothing into use:** prices, plays and limits are what they
were. -/
theorem Moves.of_fault {f : Fault} (h : b.Moves s (.fault f) b') :
    b'.prices = b.prices ∧ b'.plays = b.plays ∧ b'.limits = b.limits := by
  cases h with
  | fault | asked | reported | restricted => exact ⟨rfl, rfl, rfl⟩

/-- **A slip is taken whole or not at all.** -/
theorem Moves.of_bet {found : List Exposure.Violation} {errors : List (Nat × LineError)} {n : Nat}
    (h : b.Moves (.bet slip) (.bet found errors n) b') :
    n = b'.plays.length ∧ (found ≠ [] → b' = b) ∧
      (found = [] → ∃ schedules,
        Exposure.schedulesFor (wagersOf slip) slip.schedules = .ok schedules ∧
          b'.plays = b.plays ++ playsOf slip schedules (b.plays.length + 1)
            (Slip.readValue slip.grammar slip.text).instructions) := by
  -- The other moves have other answers.
  cases h with
  | asked hs => exact hs.elim
  | refused hne => exact ⟨rfl, fun _ => rfl, fun h => absurd h hne⟩
  | booked _ hschedules _ _ hplays =>
    exact ⟨rfl, fun h => absurd rfl h, fun _ => ⟨_, hschedules, hplays⟩⟩

/-! ### All steps -/

/-- A run takes one step, and then the others from the book after it. -/
@[simp]
theorem run_cons (b : Book) (s : Step) (ss : List Step) : b.run (s :: ss) =
    ((b.apply s).1 :: ((b.apply s).2.run ss).1, ((b.apply s).2.run ss).2) :=
  rfl

/-- Steps after steps. -/
theorem run_append (b : Book) (ss ts : List Step) : b.run (ss ++ ts) =
    ((b.run ss).1 ++ ((b.run ss).2.run ts).1, ((b.run ss).2.run ts).2) := by
  induction ss generalizing b with
  | nil => rfl
  | cons s ss ih => rw [List.cons_append, run_cons, ih, run_cons, List.cons_append]

/-- Each step is answered. -/
theorem length_run (b : Book) (ss : List Step) : (b.run ss).1.length = ss.length := by
  induction ss generalizing b with
  | nil => rfl
  | cons s ss ih => rw [run_cons, List.length_cons, List.length_cons, ih]

/-- **What each of some steps keeps, all of them keep.** -/
theorem run_induction {P : Book → Prop} {ss : List Step} (h : P b)
    (hstep : ∀ s ∈ ss, ∀ {b a b'}, b.Moves s a b' → P b → P b') : P (b.run ss).2 := by
  induction ss generalizing b with
  | nil => exact h
  | cons s ss ih =>
    exact ih (hstep s List.mem_cons_self (moves_apply b s) h)
      fun t ht => hstep t (List.mem_cons_of_mem s ht)

/-- Plays and rows are still there, with others after them. -/
structure Onward (b b' : Book) : Prop where
  plays : b.plays <+: b'.plays
  rows : b.rows <+: b'.rows

/-- A step puts plays and rows behind those that there are, if it touches them at all. -/
theorem Moves.onward (h : b.Moves s a b') : b.Onward b' := by
  cases h with
  | booked _ _ _ _ hplays => exact ⟨⟨_, hplays.symm⟩, List.prefix_rfl⟩
  | played p => exact ⟨List.prefix_append b.plays [p], List.prefix_rfl⟩
  | reported => exact ⟨List.prefix_rfl, List.prefix_append b.rows _⟩
  | fault | asked | refused | priced | restricted | limited | limitedType =>
    exact ⟨List.prefix_rfl, List.prefix_rfl⟩

/-- **Plays and rows are never lost,** nor does their order change. -/
theorem onward_run (b : Book) (ss : List Step) : b.Onward (b.run ss).2 := by
  refine run_induction (P := b.Onward) ⟨List.prefix_rfl, List.prefix_rfl⟩ fun s _ c a c' h hc => ?_
  exact ⟨hc.plays.trans h.onward.plays, hc.rows.trans h.onward.rows⟩

/-- Is a table validated as itself? -/
def IsValidated (t : Price.Table) : Prop :=
  Price.Table.build t.toValue = .ok t

/-- Only a table that was validated comes into use. -/
theorem Moves.isValidated (h : b.Moves s a b') (hb : IsValidated b.prices) :
    IsValidated b'.prices := by
  cases h with
  | priced ht => exact Price.Table.build_toValue ht
  | fault | asked | refused | booked | played | reported | restricted | limited | limitedType =>
    exact hb

/-- **The prices of a session are validated,** those at its start too. -/
theorem isValidated_run (ss : List Step) : IsValidated (opening.run ss).2.prices :=
  run_induction (P := fun b => IsValidated b.prices) Price.Table.build_reference
    fun _ _ _ _ _ h => h.isValidated

/-! ### Where plays come from -/

/-- Where the play at a place of the book comes from, counted from 0. -/
inductive Origin (ss : List Step) (m : Nat) (p : Play) : Prop where
  | recorded (h : .play p ∈ ss)
  | booked {slip : BetSlip} {schedules : List Value} {i : Slip.Instruction} {schedule : Value}
      (h : .bet slip ∈ ss)
      (hschedules : Exposure.schedulesFor (wagersOf slip) slip.schedules = .ok schedules)
      (hi : i ∈ (Slip.readValue slip.grammar slip.text).instructions)
      (hschedule : schedule ∈ schedules) (hp : p = playOf slip (m + 1) i schedule)

/-- At each place of the plays of a slip stands the play of an instruction and a schedule. -/
theorem exists_of_getElem?_playsOf {schedules : List Value} {is : List Slip.Instruction}
    {n k : Nat} {p : Play} (h : (playsOf slip schedules n is)[k]? = some p) :
    ∃ i ∈ is, ∃ schedule ∈ schedules, p = playOf slip (n + k) i schedule := by
  rw [playsOf, List.getElem?_mapIdx, Option.map_eq_some_iff] at h
  obtain ⟨e, he, rfl⟩ := h
  obtain ⟨i, hi, he⟩ := List.mem_flatMap.1 (List.mem_of_getElem? he)
  obtain ⟨schedule, hschedule, rfl⟩ := List.mem_map.1 he
  exact ⟨i, hi, schedule, hschedule, rfl⟩

/-- Where the plays before a step have come from somewhere, so have those after it. -/
theorem Moves.origin {ss : List Step} (h : b.Moves s a b') (hs : s ∈ ss)
    (hb : ∀ m p, b.plays[m]? = some p → Origin ss m p) :
    ∀ m p, b'.plays[m]? = some p → Origin ss m p := by
  intro m p hp
  -- A place is one of those before, or the step brought in the play there.
  cases h with
  | fault | asked | refused | reported | priced | restricted | limited | limitedType =>
    exact hb m p hp
  | played q =>
    rw [List.getElem?_append] at hp
    split at hp
    · exact hb m p hp
    · obtain rfl := List.mem_singleton.1 (List.mem_of_getElem? hp)
      exact .recorded hs
  | booked _ hschedules _ _ hplays =>
    subst hplays
    rw [List.getElem?_append] at hp
    split at hp
    · exact hb m p hp
    · next hm =>
      obtain ⟨i, hi, schedule, hschedule, rfl⟩ := exists_of_getElem?_playsOf hp
      refine .booked hs hschedules hi hschedule ?_
      rw [show b.plays.length + 1 + (m - b.plays.length) = m + 1 by omega]

/-- **Each play of a session was recorded, or stands for an instruction of a slip** that was brought,
in one of the schedules of the slip. -/
theorem origin_run {ss : List Step} {m : Nat} {p : Play}
    (h : (opening.run ss).2.plays[m]? = some p) : Origin ss m p :=
  run_induction (b := opening) (P := fun b => ∀ m p, b.plays[m]? = some p → Origin ss m p)
    (fun _ _ h => nomatch h) (fun _ hs _ _ _ h hb => h.origin hs hb) m p h

/-- **The ids of the plays count them,** if none was recorded as it is. -/
theorem map_id_run {ss : List Step} (h : ∀ p, .play p ∉ ss) :
    (opening.run ss).2.plays.map Play.id =
      (List.range (opening.run ss).2.plays.length).map fun m =>
        .text ("p" ++ String.ofList (Text.ofNat (m + 1))) := by
  -- Place by place: a play has its place for an id, by where it comes from.
  refine List.ext_getElem? fun m => ?_
  rw [List.getElem?_map, List.getElem?_map]
  cases hp : (opening.run ss).2.plays[m]? with
  | none =>
    have hm := List.getElem?_eq_none_iff.1 hp
    rw [List.getElem?_eq_none (by rwa [List.length_range])]
    rfl
  | some p =>
    obtain ⟨hm, _⟩ := List.getElem?_eq_some_iff.1 hp
    rw [List.getElem?_range hm]
    cases origin_run hp with
    | recorded hrecorded => exact absurd hrecorded (h p)
    | booked _ _ _ _ hp =>
      rw [hp]
      rfl

/-- So no two of them have one id. -/
theorem nodup_id_run {ss : List Step} (h : ∀ p, .play p ∉ ss) :
    ((opening.run ss).2.plays.map Play.id).Nodup := by
  rw [map_id_run h]
  refine List.nodup_range.map fun m n he => ?_
  have hnat : Text.ofNat (m + 1) = Text.ofNat (n + 1) :=
    String.ofList_injective (by simpa using he)
  have hm := Text.toNat_ofNat (m + 1)
  rw [hnat, Text.toNat_ofNat] at hm
  omega

/-! ### Answers -/

/-- Each step has one answer. -/
theorem length_transcript (ss : List Step) : (transcript ss).length = ss.length := by
  rw [transcript, List.length_map, length_run]

/-- An answer that closing the book changes gives the limits of play types, before and after. -/
theorem closing_eq_iff {a' : Answer} (h : ∀ all, a ≠ .playTypeLimits all) :
    b.closing a' = a ↔ a' = a := by
  cases a' with
  | playTypeLimits all =>
    exact iff_of_false (fun he => h _ he.symm) fun he => h _ he.symm
  | prices | limited | results | limit | bet | play | usage | settled | groups | fault => exact .rfl

/-- **An answer stands, whatever is done later,** unless it gives the limits of play types. -/
theorem getElem?_transcript_append {ss ts : List Step} {m : Nat}
    (hm : (transcript ss)[m]? = some a) (h : ∀ all, a ≠ .playTypeLimits all) :
    (transcript (ss ++ ts))[m]? = some a := by
  rw [transcript, List.getElem?_map, Option.map_eq_some_iff] at hm
  obtain ⟨a', ha', hclosing⟩ := hm
  obtain rfl := (closing_eq_iff h).1 hclosing
  obtain ⟨hlt, _⟩ := List.getElem?_eq_some_iff.1 ha'
  rw [transcript, run_append, List.getElem?_map, List.getElem?_append_left hlt, ha', Option.map_some,
    (closing_eq_iff h).2 rfl]

end Book
end Lottery
