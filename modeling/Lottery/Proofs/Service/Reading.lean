/-
# Why a request cannot be read

A request that breaks a rule is refused with an explanation.  What is read of it
fails without one only for these reasons, the first value that is not in order
being the one that counts:

| read | fails if |
| --- | --- |
| prices | the first fault of the table is an integer beyond the doubles |
| plays | so is the amount or total of the first play that is not in order |
| limits of numbers, of play types | so is the first limit that is not in order |
| limited numbers | those of a schedule are true or a number other than zero |
| results | never |

A body is read without long integers, so every value of it can be written.

Among the readers are `_play_records`, `_result_rows`, `_price_table` and
`_limited_sets`.
-/

import Lottery.Proofs.Exposure.Usage
import Lottery.Proofs.Play.Bounds
import Lottery.Service.Reply

namespace Lottery
namespace Service

/-! ### Failing and refusing -/

/-- A computation fails, which nothing explains. -/
def Fails {α : Type} (x : Except Refusal α) : Prop :=
  ∃ f, x = .error (.failed f)

section Steps

variable {α β : Type} {x : Except Refusal α} {g : α → Except Refusal β} {y : Except Fault α}
  {a : α}

/-- What has a result does not fail. -/
theorem not_fails_ok : ¬Fails (.ok a) := nofun

/-- A refusal that is explained is no failure: it becomes an answer of its own. -/
theorem not_fails_explained {m : String} : ¬Fails (.error (.explained m) : Except Refusal α) :=
  nofun

/-- A computation of two steps fails if the first does, or the second after it. -/
theorem fails_bind : Fails (x >>= g) ↔ Fails x ∨ ∃ a, x = .ok a ∧ Fails (g a) := by
  unfold Fails
  simp only [bind_eq_error]
  constructor
  · rintro ⟨f, h | ⟨a, ha, h⟩⟩
    · exact .inl ⟨f, h⟩
    · exact .inr ⟨a, ha, f, h⟩
  · rintro (⟨f, h⟩ | ⟨a, ha, f, h⟩)
    · exact ⟨f, .inl h⟩
    · exact ⟨f, .inr ⟨a, ha, h⟩⟩

/-- Explaining faults does not touch results. -/
theorem orRefuse_eq_ok {refusal : Fault → Refusal} : orRefuse refusal y = .ok a ↔ y = .ok a := by
  cases y <;> simp [orRefuse]

/-- Faults of two steps may be explained step by step. -/
theorem orRefuse_bind {refusal : Fault → Refusal} {g : α → Except Fault β} :
    orRefuse refusal (y >>= g) = orRefuse refusal y >>= fun a => orRefuse refusal (g a) := by
  cases y <;> rfl

/-- What succeeds does not fail. -/
theorem not_fails_orRefuse {refusal : Fault → Refusal} (h : ∃ a, y = .ok a) :
    ¬Fails (orRefuse refusal y) := by
  obtain ⟨a, rfl⟩ := h
  exact not_fails_ok

/-- Each fault of a computation of which nothing is explained makes it fail. -/
theorem fails_orRefuse_failed : Fails (orRefuse .failed y) ↔ ∃ f, y = .error f := by
  cases y <;> simp [Fails, orRefuse]

/-- Elements are taken in order, so the first one that is not in order decides. -/
theorem fails_mapM {l : List α} : Fails (l.mapM g) ↔
    ∃ before a after, l = before ++ a :: after ∧ (∀ b ∈ before, ∃ c, g b = .ok c) ∧
      Fails (g a) := by
  unfold Fails
  simp only [mapM_eq_error_iff]
  constructor
  · rintro ⟨f, before, a, after, hl, hbefore, ha⟩
    exact ⟨before, a, after, hl, hbefore, f, ha⟩
  · rintro ⟨before, a, after, hl, hbefore, f, ha⟩
    exact ⟨f, before, a, after, hl, hbefore, ha⟩

end Steps

/-! ### Texts -/

section Fields

variable {fields : List (String × Value)} (h : Value.anyLongField fields = false) (name : String)
include h

/-- Without long integers every field can be written as a text. -/
theorem exists_textOf : ∃ s, textOf fields name = .ok s := by
  refine Value.exists_written ?_
  cases hl : fields.lookup name with
  | none => rfl
  | some v => exact Value.hasLongInteger_of_lookup h hl

/-- The same where an absent field counts as the empty text. -/
theorem exists_presentTextOf : ∃ s, presentTextOf fields name = .ok s :=
  Value.exists_written (Value.hasLongInteger_orElse (Value.hasLongInteger_get h name) rfl)

/-- The elements of a field can be written, each one. -/
theorem exists_elements_mapM_written {vs : List Value} (hv : elementsOf fields name = .ok vs) :
    ∃ ss, vs.mapM Value.written = .ok ss :=
  exists_mapM_eq_ok fun v hmem => Value.exists_written (Value.hasLongInteger_of_mem_elements
    (Value.hasLongInteger_orElse (Value.hasLongInteger_get h name) rfl) hv v hmem)

end Fields

/-! ### Prices -/

section Prices

variable {s : Price.Surroundings} {fields : List (String × Value)}

/-- Without a price file the reference is in use, and nothing is warned of. -/
theorem inUse_of_unset (hs : s.priceVariable = none) :
    Price.Table.inUse s = .ok (.reference, []) := by
  unfold Price.Table.inUse
  rw [hs]
  rfl

variable (h : Value.anyLongField fields = false)
include h

/-- Without a price file, prices fail only if the first fault of the table in the request is an
integer beyond the doubles. -/
theorem fails_pricesOf (hs : s.priceVariable = none) :
    Fails (pricesOf s fields) ↔ Price.OversizedFirst (Value.get fields "prices") := by
  unfold pricesOf
  split
  · next hnull =>
    rw [inUse_of_unset hs, hnull]
    refine iff_of_false not_fails_ok ?_
    rintro ⟨_, _, _, hobject, _⟩
    cases hobject
  · next v hv =>
    constructor
    · rintro ⟨f, hf⟩
      -- A table that breaks a rule is explained, so only an oversized multiplier is left.
      cases hb : Price.Table.build (Value.get fields "prices") with
      | ok t =>
        rw [hb] at hf
        cases hf
      | error e =>
        rcases Price.Table.build_eq_error (Value.hasLongInteger_get h "prices") hb with
          ⟨p, rfl⟩ | ⟨_, hover⟩
        · rw [hb] at hf
          cases hf
        · exact hover
    · intro hover
      rw [Price.Table.build_of_oversizedFirst hover]
      exact ⟨_, rfl⟩

end Prices

/-! ### Plays -/

/-- A row of a play whose amount is an integer beyond the doubles, or whose total is one and its
amount in order. -/
def OversizedPlay (row : Value) : Prop :=
  ∃ fields, row = .object fields ∧ ((Value.get fields "amount").IsBeyond ∨
    (∃ x, (Value.get fields "amount").amount = .ok x) ∧ (Value.get fields "total").IsBeyond)

/-- The amounts of a play fail beyond the doubles if the amount is such an integer, or if it is not
and the total is one. -/
theorem amountsOf_eq_beyond_iff {fields : List (String × Value)} :
    amountsOf fields = .error .beyondDoubles ↔ (Value.get fields "amount").IsBeyond ∨
      (∃ x, (Value.get fields "amount").amount = .ok x) ∧ (Value.get fields "total").IsBeyond := by
  unfold amountsOf
  rw [bind_eq_error, Value.amount_eq_beyond_iff]
  refine or_congr_right ?_
  constructor
  · rintro ⟨x, hx, h⟩
    refine ⟨⟨x, hx⟩, ?_⟩
    split at h
    · cases h
    · rcases bind_eq_error.1 h with htotal | ⟨_, _, h⟩
      · exact Value.toDouble_eq_beyond_iff.1 htotal
      · cases h
  -- An oversized total is an integer, so it is none of the totals that are left out.
  · rintro ⟨⟨x, hx⟩, htotal⟩
    refine ⟨x, hx, ?_⟩
    have hd := Value.toDouble_eq_beyond_iff.2 htotal
    obtain ⟨n, hn, _⟩ := htotal
    rw [hn] at hd ⊢
    dsimp only
    rw [hd]
    rfl

/-- A play that was read has texts and doubles in its fields and nothing else. -/
theorem plain_of_playOf {row : Value} {p : Play} (h : playOf row = .ok p) : p.Plain := by
  unfold playOf at h
  split at h
  -- Every field was made a text, but for the two amounts, which were made doubles.
  · obtain ⟨id, _, h⟩ := bind_eq_ok.1 h
    obtain ⟨⟨amount, total⟩, ham, h⟩ := bind_eq_ok.1 h
    have h := orRefuse_eq_ok.1 h
    obtain ⟨playType, _, h⟩ := bind_eq_ok.1 h
    obtain ⟨numbers, _, h⟩ := bind_eq_ok.1 h
    obtain ⟨scheduleId, _, h⟩ := bind_eq_ok.1 h
    obtain ⟨day, _, h⟩ := bind_eq_ok.1 h
    obtain ⟨lottery, _, h⟩ := bind_eq_ok.1 h
    obtain ⟨schedule, _, h⟩ := bind_eq_ok.1 h
    obtain ⟨agent, _, h⟩ := bind_eq_ok.1 h
    obtain ⟨id, _, h⟩ := bind_eq_ok.1 h
    obtain rfl := Except.ok.inj h
    obtain ⟨x, _, ham⟩ := bind_eq_ok.1 (orRefuse_eq_ok.1 ham)
    refine ⟨⟨_, rfl⟩, ⟨_, rfl⟩, ?_, ⟨_, rfl⟩, ⟨_, rfl⟩, ?_, ⟨_, rfl⟩, ⟨_, rfl⟩, ⟨_, rfl⟩⟩
    · split at ham
      · obtain ⟨rfl, _⟩ := Prod.mk.inj (Except.ok.inj ham)
        exact ⟨x, rfl⟩
      · obtain ⟨y, _, ham⟩ := bind_eq_ok.1 ham
        obtain ⟨rfl, _⟩ := Prod.mk.inj (Except.ok.inj ham)
        exact ⟨x, rfl⟩
    · split at ham
      · obtain ⟨_, rfl⟩ := Prod.mk.inj (Except.ok.inj ham)
        exact .inl rfl
      · obtain ⟨y, _, ham⟩ := bind_eq_ok.1 ham
        obtain ⟨_, rfl⟩ := Prod.mk.inj (Except.ok.inj ham)
        exact .inr ⟨y, rfl⟩
  · cases h

/-- Reading a play fails exactly for an amount or a total beyond the doubles; whatever else is wrong
with it is explained. -/
theorem fails_playOf {row : Value} (h : row.hasLongInteger = false) :
    Fails (playOf row) ↔ OversizedPlay row := by
  unfold playOf
  split
  · next fields =>
    rw [Value.hasLongInteger] at h
    obtain ⟨id, hid⟩ := exists_textOf h "id"
    have hfields : OversizedPlay (.object fields) ↔
        amountsOf fields = .error .beyondDoubles := by
      rw [amountsOf_eq_beyond_iff]
      constructor
      · rintro ⟨fields', heq, h⟩
        cases heq
        exact h
      · exact fun h => ⟨fields, rfl, h⟩
    rw [hfields, hid]
    -- The texts can always be read, so the amounts decide.
    cases ham : amountsOf fields with
    | error f =>
      cases f
      case beyondDoubles => exact iff_of_true ⟨_, rfl⟩ rfl
      all_goals exact iff_of_false nofun nofun
    | ok a =>
      refine iff_of_false ?_ nofun
      exact not_fails_orRefuse <|
        exists_bind_eq_ok (exists_presentTextOf h "play_type") fun _ =>
        exists_bind_eq_ok (exists_presentTextOf h "numbers") fun _ =>
        exists_bind_eq_ok (exists_textOf h "schedule_id") fun _ =>
        exists_bind_eq_ok (exists_textOf h "day") fun _ =>
        exists_bind_eq_ok (exists_presentTextOf h "lottery") fun _ =>
        exists_bind_eq_ok (exists_presentTextOf h "schedule") fun _ =>
        exists_bind_eq_ok (exists_presentTextOf h "agent") fun _ =>
        exists_bind_eq_ok (exists_presentTextOf h "id") fun _ => ⟨_, rfl⟩
  · refine iff_of_false not_fails_explained ?_
    rintro ⟨fields, rfl, _⟩
    next hne => exact hne fields rfl

/-- Reading a reported result does not fail. -/
theorem exists_resultOf? {row : Value} (h : row.hasLongInteger = false) :
    ∃ o, resultOf? row = .ok o := by
  unfold resultOf?
  split
  · rw [Value.hasLongInteger] at h
    exact exists_bind_eq_ok (exists_textOf h "schedule_id") fun _ =>
      exists_bind_eq_ok (exists_textOf h "day") fun _ => ⟨_, rfl⟩
  · exact ⟨_, rfl⟩

/-- The schedule and the day of a reported result were written as texts. -/
theorem texts_of_resultOf? {row : Value} {r : ResultRow} (h : resultOf? row = .ok (some r)) :
    (∃ s, r.schedule = .text s) ∧ ∃ d, r.day = .text d := by
  unfold resultOf? at h
  split at h
  · obtain ⟨s, _, h⟩ := bind_eq_ok.1 h
    obtain ⟨d, _, h⟩ := bind_eq_ok.1 h
    obtain rfl := Option.some.inj (Except.ok.inj h)
    exact ⟨⟨s, rfl⟩, ⟨d, rfl⟩⟩
  · cases h

/-- A value that counts as present and cannot be gone through. -/
def NotIterable (v : Value) : Prop :=
  v.isPresent = true ∧ ∃ f, v.elements = .error f

/-- The limited numbers of a schedule, as a request gives them. -/
theorem exists_error_limited_iff {e : String × Value} (h : e.2.hasLongInteger = false) :
    (∃ f, (do
      let ns ← (e.2.orElse (.list [])).elements
      let ns ← ns.mapM Value.written
      .ok (Value.text e.1, ns) : Except Fault (Value × List String)) = .error f) ↔
        NotIterable e.2 := by
  have hshort := Value.hasLongInteger_orElse (w := .list []) h rfl
  unfold NotIterable
  constructor
  · rintro ⟨f, hf⟩
    -- Its elements can be written if there are any, so a value fails by having none.
    rcases bind_eq_error.1 hf with hf | ⟨vs, hvs, hf⟩
    · unfold Value.orElse at hf
      split at hf
      · next hpresent => exact ⟨hpresent, f, hf⟩
      · cases hf
    · obtain ⟨ns, hns⟩ := exists_mapM_eq_ok fun v hv =>
        Value.exists_written (Value.hasLongInteger_of_mem_elements hshort hvs v hv)
      rw [hns] at hf
      cases hf
  · rintro ⟨hpresent, f, hf⟩
    refine ⟨f, bind_eq_error.2 (.inl ?_)⟩
    rw [Value.orElse, if_pos hpresent, hf]

section Lists

variable {fields : List (String × Value)}

/-- The first play that is not in order is oversized. -/
def OversizedPlays (fields : List (String × Value)) : Prop :=
  ∃ before row after, Value.get fields "plays" = .list (before ++ row :: after) ∧
    (∀ b ∈ before, ∃ p, playOf b = .ok p) ∧ OversizedPlay row

/-- The limited numbers of some schedule are no collection. -/
def LimitedNotIterable (fields : List (String × Value)) : Prop :=
  ∃ schedules e, Value.get fields "limited" = .object schedules ∧ e ∈ schedules ∧
    NotIterable e.2

/-- So do all plays of a request. -/
theorem plain_of_playsOf {plays : List Play} (h : playsOf fields = .ok plays) :
    ∀ p ∈ plays, p.Plain := by
  unfold playsOf at h
  split at h
  · intro p hp
    obtain ⟨row, _, hrow⟩ := (mem_iff_of_mapM_eq_ok h).1 hp
    exact plain_of_playOf hrow
  · cases h

variable (h : Value.anyLongField fields = false)
include h

/-- **Reading plays fails exactly if the first one that is not in order is oversized.** -/
theorem fails_playsOf : Fails (playsOf fields) ↔ OversizedPlays fields := by
  -- An empty list stands in for what is not there, so a row is one of the request itself.
  have hlist : ∀ {before row after},
      (Value.get fields "plays").orElse (.list []) = .list (before ++ row :: after) ↔
        Value.get fields "plays" = .list (before ++ row :: after) :=
    Value.orElse_list_eq_iff (by simp)
  have hshort := Value.hasLongInteger_orElse (w := .list [])
    (Value.hasLongInteger_get h "plays") rfl
  unfold playsOf OversizedPlays
  simp only [← hlist]
  split
  · next rows hrows =>
    rw [hrows, Value.hasLongInteger] at hshort
    rw [fails_mapM, hrows]
    constructor
    · rintro ⟨before, row, after, rfl, hbefore, hrow⟩
      have hmem := Value.hasLongInteger_of_mem_list hshort
        (List.mem_append_right before List.mem_cons_self)
      exact ⟨before, row, after, rfl, hbefore, (fails_playOf hmem).1 hrow⟩
    · rintro ⟨before, row, after, heq, hbefore, hrow⟩
      obtain rfl := Value.list.inj heq
      have hmem := Value.hasLongInteger_of_mem_list hshort
        (List.mem_append_right before List.mem_cons_self)
      exact ⟨before, row, after, rfl, hbefore, (fails_playOf hmem).2 hrow⟩
  · next hne =>
    refine iff_of_false not_fails_explained ?_
    rintro ⟨before, row, after, heq, _⟩
    exact hne _ heq

/-- Results never fail. -/
theorem not_fails_resultsOf : ¬Fails (resultsOf fields) := by
  have hshort := Value.hasLongInteger_orElse (w := .list [])
    (Value.hasLongInteger_get h "results") rfl
  unfold resultsOf
  split
  · next rows hrows =>
    rw [hrows, Value.hasLongInteger] at hshort
    refine not_fails_orRefuse ?_
    -- A row that is no object is left out, and the texts of the others can be written.
    have hfound : ∃ found, rows.mapM resultOf? = .ok found :=
      exists_mapM_eq_ok fun row hrow =>
        exists_resultOf? (Value.hasLongInteger_of_mem_list hshort hrow)
    obtain ⟨found, hfound⟩ := hfound
    rw [hfound]
    refine exists_foldlM_eq_ok (fun r hr rs => ?_) []
    obtain ⟨o, ho, rfl⟩ := List.mem_filterMap.1 hr
    obtain ⟨row, _, hrow⟩ := (mem_iff_of_mapM_eq_ok hfound).1 ho
    obtain ⟨⟨schedule, hs⟩, ⟨day, hd⟩⟩ := texts_of_resultOf? hrow
    unfold Results.add
    rw [hs, hd]
    exact ⟨_, rfl⟩
  · exact not_fails_explained

/-- **Reading limited numbers fails exactly if those of a schedule cannot be gone through.** -/
theorem fails_limitedOf : Fails (limitedOf fields) ↔ LimitedNotIterable fields := by
  -- An empty object stands in for what is not there, so an entry is one of the request itself.
  have hobject : ∀ {schedules e}, e ∈ schedules →
      ((Value.get fields "limited").orElse (.object []) = .object schedules ↔
        Value.get fields "limited" = .object schedules) :=
    fun he => Value.orElse_object_eq_iff (List.ne_nil_of_mem he)
  have hshort := Value.hasLongInteger_orElse (w := .object [])
    (Value.hasLongInteger_get h "limited") rfl
  unfold limitedOf LimitedNotIterable
  split
  · next schedules hschedules =>
    rw [hschedules, Value.hasLongInteger] at hshort
    rw [fails_orRefuse_failed, exists_mapM_eq_error_iff]
    constructor
    · rintro ⟨e, he, herror⟩
      exact ⟨schedules, e, (hobject he).1 hschedules, he,
        (exists_error_limited_iff (Value.hasLongInteger_of_mem hshort he)).1 herror⟩
    · rintro ⟨schedules', e, heq, he, hiter⟩
      obtain rfl := Value.object.inj (((hobject he).2 heq).symm.trans hschedules)
      exact ⟨e, he, (exists_error_limited_iff (Value.hasLongInteger_of_mem hshort he)).2 hiter⟩
  · next hne =>
    refine iff_of_false not_fails_explained ?_
    rintro ⟨schedules, e, heq, he, _⟩
    exact hne _ ((hobject he).2 heq)

end Lists

/-! ### Limits -/

/-- Of what is explained as wrong input only the bounds of numbers still fail. -/
theorem fails_orRefuse_ofInput {α : Type} {y : Except Fault α} :
    Fails (orRefuse .ofInput y) ↔ ∃ f, y = .error f ∧ f.IsBound := by
  cases y with
  | ok a => simp [Fails, orRefuse]
  | error f => cases f <;> simp [Fails, orRefuse, Refusal.ofInput, Fault.IsBound]

/-- A row of a limit that is an integer beyond the doubles. -/
def OversizedLimit (row : Value) : Prop :=
  ∃ fields, row = .object fields ∧ (Value.get fields "limit").IsBeyond

/-- A limit of a number fails for its amount alone: its key can always be written. -/
theorem limitOf?_eq_error_iff {row : Value} {f : Fault} (h : row.hasLongInteger = false) :
    limitOf? row = .error f ↔
      ∃ fields, row = .object fields ∧ (Value.get fields "limit").amount = .error f := by
  unfold limitOf?
  split
  · next fields =>
    rw [Value.hasLongInteger] at h
    -- The three texts make a risk, so only the limit itself is left to fail.
    obtain ⟨schedule, hs⟩ := exists_textOf h "schedule_id"
    obtain ⟨playType, ht⟩ := exists_textOf h "play_type"
    obtain ⟨number, hn⟩ := exists_textOf h "number"
    obtain ⟨m, hrisk⟩ := Exposure.Risk.exists_of_texts schedule playType number
    rw [hs, ht, hn]
    show (Exposure.Risk.of (.text schedule) (.text playType) (.text number) >>= _) = _ ↔ _
    rw [hrisk]
    show ((Value.get fields "limit").amount >>= _) = _ ↔ _
    rw [bind_eq_error]
    constructor
    · rintro (hf | ⟨_, _, hf⟩)
      · exact ⟨fields, rfl, hf⟩
      · cases hf
    · rintro ⟨fields', heq, hf⟩
      obtain rfl := Value.object.inj heq
      exact .inl hf
  · next hne =>
    refine iff_of_false nofun ?_
    rintro ⟨fields, rfl, _⟩
    exact hne fields rfl

section Fields

variable {fields : List (String × Value)}

/-- The first limit of a number that is not in order is oversized. -/
def OversizedLimits (fields : List (String × Value)) : Prop :=
  ∃ before row after, Value.get fields "limits" = .list (before ++ row :: after) ∧
    (∀ b ∈ before, ∃ o, limitOf? b = .ok o) ∧ OversizedLimit row

/-- The first limit of a play type that is not in order is an integer beyond the doubles. -/
def OversizedPlayTypeLimits (fields : List (String × Value)) : Prop :=
  ∃ before e after, Value.get fields "agent_limits" = .object (before ++ e :: after) ∧
    (∀ b ∈ before, ∃ x, b.2.toDouble = .ok x) ∧ e.2.IsBeyond

variable (h : Value.anyLongField fields = false)
include h

/-- Reading the limits of numbers fails exactly if the first one that is not in order is oversized.
-/
theorem fails_numberLimitsOf :
    Fails (orRefuse .ofInput (numberLimitsOf fields)) ↔ OversizedLimits fields := by
  have hshort := Value.hasLongInteger_orElse (w := .list [])
    (Value.hasLongInteger_get h "limits") rfl
  have hlist : ∀ {before row after},
      (Value.get fields "limits").orElse (.list []) = .list (before ++ row :: after) ↔
        Value.get fields "limits" = .list (before ++ row :: after) :=
    Value.orElse_list_eq_iff (by simp)
  -- A fault that is no bound is explained, so only amounts beyond the doubles are left.
  rw [fails_orRefuse_ofInput]
  unfold OversizedLimits
  simp only [← hlist]
  unfold numberLimitsOf elementsOf
  constructor
  · rintro ⟨f, hf, hbound⟩
    rcases bind_eq_error.1 hf with hf | ⟨rows, hrows, hf⟩
    · rw [Value.elements_eq_error hf] at hbound
      rcases hbound with hb | hb | hb <;> cases hb
    · rcases bind_eq_error.1 hf with hf | ⟨_, _, hf⟩
      · obtain ⟨before, row, after, rfl, hbefore, hrow⟩ := mapM_eq_error_iff.1 hf
        have hrowshort := Value.hasLongInteger_of_mem_elements hshort hrows row
          (List.mem_append_right before List.mem_cons_self)
        obtain ⟨fs, rfl, hamount⟩ := (limitOf?_eq_error_iff hrowshort).1 hrow
        exact ⟨before, _, after, Value.eq_list_of_elements hrows
          (List.mem_append_right before List.mem_cons_self), hbefore, fs, rfl,
            Value.amount_isBound_iff.1 ⟨f, hamount, hbound⟩⟩
      · cases hf
  · rintro ⟨before, row, after, heq, hbefore, fs, rfl, hbeyond⟩
    rw [heq, Value.hasLongInteger] at hshort
    have hrowshort := Value.hasLongInteger_of_mem_list hshort
        (List.mem_append_right before List.mem_cons_self)
    refine ⟨.beyondDoubles, ?_, .inl rfl⟩
    rw [heq]
    refine bind_eq_error.2 (.inr ⟨_, rfl, bind_eq_error.2 (.inl ?_)⟩)
    exact mapM_eq_error_iff.2 ⟨before, _, after, rfl, hbefore,
      (limitOf?_eq_error_iff hrowshort).2 ⟨fs, rfl, Value.amount_eq_beyond_iff.2 hbeyond⟩⟩

omit h

/-- Reading the limits of play types fails exactly if the first one that is not in order is
oversized. -/
theorem fails_playTypeLimitsOf :
    Fails (orRefuse .ofInput (playTypeLimitsOf fields)) ↔ OversizedPlayTypeLimits fields := by
  have hobject : ∀ {before e after},
      (Value.get fields "agent_limits").orElse (.object []) = .object (before ++ e :: after) ↔
        Value.get fields "agent_limits" = .object (before ++ e :: after) :=
    Value.orElse_object_eq_iff (by simp)
  rw [fails_orRefuse_ofInput]
  unfold OversizedPlayTypeLimits
  simp only [← hobject]
  unfold playTypeLimitsOf
  split
  · next limits hlimits =>
    constructor
    · rintro ⟨f, hf, hbound⟩
      -- The first limit that fails decides, so all limits before it are doubles.
      obtain ⟨before, e, after, rfl, hbefore, he⟩ := mapM_eq_error_iff.1 hf
      refine ⟨before, e, after, hlimits, fun b hb => ?_, ?_⟩
      · obtain ⟨_, hx⟩ := hbefore b hb
        obtain ⟨x, hx, _⟩ := bind_eq_ok.1 hx
        exact ⟨x, hx⟩
      · rcases bind_eq_error.1 he with he | ⟨_, _, he⟩
        · exact Value.toDouble_isBound_iff.1 ⟨f, he, hbound⟩
        · cases he
    · rintro ⟨before, e, after, heq, hbefore, hbeyond⟩
      obtain rfl := Value.object.inj (hlimits.symm.trans heq)
      refine ⟨.beyondDoubles, mapM_eq_error_iff.2 ⟨before, e, after, rfl, fun b hb => ?_, ?_⟩,
        .inl rfl⟩
      · obtain ⟨x, hx⟩ := hbefore b hb
        exact ⟨_, bind_eq_ok.2 ⟨x, hx, rfl⟩⟩
      · exact bind_eq_error.2 (.inl (Value.toDouble_eq_beyond_iff.2 hbeyond))
  · next hne =>
    refine iff_of_false ?_ ?_
    · rintro ⟨f, hf, hbound⟩
      obtain rfl := Except.error.inj hf
      rcases hbound with hb | hb | hb <;> cases hb
    · rintro ⟨before, e, after, heq, _⟩
      exact hne _ heq

end Fields

/-- Plays that were read have a usage: their amounts are doubles already. -/
theorem exists_usage {plays : List Play} (h : ∀ p ∈ plays, p.Plain) :
    ∃ U, Exposure.usage plays = .ok U := by
  refine exists_foldlM_eq_ok (fun p hp U => ?_) []
  obtain ⟨numbers, hn⟩ := (h p hp).numbers
  obtain ⟨t, ht⟩ := (h p hp).playType
  obtain ⟨s, hs⟩ := (h p hp).scheduleId
  obtain ⟨x, hx⟩ := (h p hp).amount
  -- Numbers and amounts of a plain play are read, and its texts make risks.
  unfold Exposure.addPlay
  rw [hn, Numbers.ofValue_text]
  refine exists_foldlM_eq_ok (fun n _ U => ?_) U
  obtain ⟨m, hm⟩ := Exposure.Risk.exists_of_texts s t n
  unfold Exposure.addNumber
  rw [hs, ht, hm, hx]
  show ∃ c, ((Value.real x).amount >>= _) = .ok c
  exact exists_bind_eq_ok (Value.exists_amount_real x) fun _ => ⟨_, rfl⟩

end Service
end Lottery
