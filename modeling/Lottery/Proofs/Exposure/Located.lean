/-
# Which limits are exceeded

The check goes through the wagers, the distinct numbers of each and the
schedules, and judges one stake at each such site:

| number's limit | play type's limit | limit at the site |
| --- | --- | --- |
| none | none | none |
| `x` | none | `x` |
| none | `y` | `y` |
| `x` | `y` | the smaller of `x` and `y` |

and a limit that comes out as zero is none.  `violations_exact` says that what is
reported is exactly what exceeds, each site once and in the order of the check:
a wager, number or schedule that is listed twice is two sites, a number that
is repeated within a wager is one.  Every limit is assumed to be a number, as nan
is neither smaller than the other limit nor larger.

The sites are the rounds of the three nested loops of `check_instruction_limits`,
in their order.
-/

import Lottery.Proofs.Binary64.Sums
import Lottery.Proofs.Exposure.Judging
import Mathlib.Data.List.Induction

namespace Lottery
namespace Exposure

variable {ws : List Wager} {S : List String} {l : Limits} {U : Amounts} {vs : List Violation}
  {t : PlayType} {r : Risk} {x : Binary64}

/-! ### The limit that counts -/

namespace Limits

/-- No limit is nan. -/
structure Numeric (l : Limits) : Prop where
  numbers : ∀ e ∈ l.numbers, e.2 ≠ .nan
  playTypes : ∀ e ∈ l.playTypes, e.2 ≠ .nan

/-- A risk has a limit: one of its number, or one of its play type. -/
def Has (l : Limits) (t : PlayType) (r : Risk) (x : Binary64) : Prop :=
  l.numbers.lookup r = some x ∨ l.ofPlayType? t = some x

/-- A limit of a risk that is the smallest it has. -/
structure Governs (l : Limits) (t : PlayType) (r : Risk) (x : Binary64) : Prop where
  has : l.Has t r x
  le : ∀ y, l.Has t r y → x.le y = true

/-- Where all limits are numbers, so is that of a risk. -/
theorem Numeric.ne_nan (hl : l.Numeric) (h : l.Has t r x) : x ≠ .nan := by
  rcases h with h | h <;> obtain ⟨e, he, _, rfl⟩ := Entries.exists_mem_of_lookup h
  · exact hl.numbers e he
  · exact hl.playTypes e he

/-- The smaller of the limits that there are governs. -/
theorem governs_of_smaller (hl : l.Numeric)
    (h : smaller (l.numbers.lookup r) (l.ofPlayType? t) = some x) : l.Governs t r x := by
  -- Four cases, by which of the two limits there are; each limit that there is gets compared.
  cases hn : l.numbers.lookup r with
  | none =>
    rw [hn] at h
    refine ⟨.inr h, fun y hy => ?_⟩
    have hyx : l.ofPlayType? t = some y := hy.resolve_left (by simp [hn])
    obtain rfl := Option.some.inj (h.symm.trans hyx)
    exact Binary64.le_refl (hl.ne_nan hy)
  | some n =>
    have hnan : n ≠ .nan := hl.ne_nan (t := t) (.inl hn)
    cases ht : l.ofPlayType? t with
    | none =>
      rw [hn, ht] at h
      obtain rfl := Option.some.inj h
      refine ⟨.inl hn, fun y hy => ?_⟩
      obtain rfl := Option.some.inj (hn.symm.trans (hy.resolve_right (by simp [ht])))
      exact Binary64.le_refl hnan
    | some p =>
      have hpan : p ≠ .nan := hl.ne_nan (r := r) (.inr ht)
      rw [hn, ht] at h
      obtain rfl : n.least p = x := Option.some.inj h
      have hboth : ∀ y, l.Has t r y → y = n ∨ y = p := by
        rintro y (hy | hy)
        · exact .inl (Option.some.inj (hy.symm.trans hn))
        · exact .inr (Option.some.inj (hy.symm.trans ht))
      rw [Binary64.least]
      split
      · next hlt =>
        refine ⟨.inr ht, fun y hy => ?_⟩
        rcases hboth y hy with rfl | rfl
        · exact Binary64.le_of_lt hlt
        · exact Binary64.le_refl hpan
      · next hlt =>
        refine ⟨.inl hn, fun y hy => ?_⟩
        rcases hboth y hy with rfl | rfl
        · exact Binary64.le_refl hnan
        · exact Binary64.le_of_not_lt hnan hpan (Bool.eq_false_iff.2 hlt)

/-- A risk that has a limit has a smallest one. -/
theorem exists_smaller_of_has (h : l.Has t r x) :
    ∃ y, smaller (l.numbers.lookup r) (l.ofPlayType? t) = some y := by
  rcases h with h | h <;> rw [h]
  · cases l.ofPlayType? t <;> exact ⟨_, rfl⟩
  · cases l.numbers.lookup r <;> exact ⟨_, rfl⟩

/-- **The limit that counts is the smallest that there is,** provided it is not zero. -/
theorem effective?_eq_some_iff (hl : l.Numeric) :
    l.effective? t r = some x ↔ l.Governs t r x ∧ x.isZero = false := by
  rw [effective?, Option.filter_eq_some_iff, Bool.not_eq_true']
  refine and_congr_left fun hx => ⟨governs_of_smaller hl, fun h => ?_⟩
  obtain ⟨y, hy⟩ := exists_smaller_of_has h.has
  have hgoverns := governs_of_smaller hl hy
  rw [hy, Binary64.le_antisymm hx (h.le y hgoverns.has) (hgoverns.le x h.has)]

end Limits

/-! ### Where stakes are judged -/

/-- A site of the check: the places of a wager, of a number in it, and of a schedule. -/
structure Site where
  wager : Nat
  number : Nat
  schedule : Nat
  deriving DecidableEq

namespace Site

/-- The order of the check: by wager, then by number, then by schedule. -/
def Before (p q : Site) : Prop :=
  p.wager < q.wager ∨ p.wager = q.wager ∧
    (p.number < q.number ∨ p.number = q.number ∧ p.schedule < q.schedule)

end Site

/-- A violation at a site: the stake on a number that stands there for the first time, in a
schedule, exceeds the smallest of its limits, which is not zero. -/
structure Exceeds (ws : List Wager) (S : List String) (l : Limits) (U : Amounts) (p : Site)
    (v : Violation) : Prop where
  wager : ∃ w, ws[p.wager]? = some w ∧ v.playType = w.playType ∧
    w.numbers[p.number]? = some v.number ∧ v.number ∉ w.numbers.take p.number ∧
      v.attempt = w.each * w.numbers.count v.number
  schedule : S[p.schedule]? = some v.schedule
  allowed : l.Governs v.playType (.ofNumber v.schedule v.playType v.number) v.allowed
  allowed_ne_zero : v.allowed.isZero = false
  used : v.used = U.get (.ofNumber v.schedule v.playType v.number)
  exceeds : v.allowed.lt (v.used.add (.ofInt v.attempt)) = true

/-- The numbers that stand somewhere for the first time, with their places. -/
def firsts (ns : List String) : List (String × Nat) :=
  ns.zipIdx.filter fun e => !(ns.take e.2).contains e.1

/-- A number comes first at a place if it stands there and not before. -/
theorem mem_firsts {ns : List String} {e : String × Nat} :
    e ∈ firsts ns ↔ ns[e.2]? = some e.1 ∧ e.1 ∉ ns.take e.2 := by
  rw [firsts, List.mem_filter, List.mem_zipIdx_iff_getElem?]
  simp

/-- They are the numbers without repeats. -/
theorem map_fst_firsts (ns : List String) : (firsts ns).map Prod.fst = ns.eraseDups := by
  induction ns using List.reverseRecOn with
  | nil => rfl
  | append_singleton ns n ih =>
    -- A place in the list without the last element has the same elements before it.
    have hold : (ns.zipIdx.filter fun e => !((ns ++ [n]).take e.2).contains e.1) = firsts ns := by
      refine List.filter_congr fun e he => ?_
      rw [List.take_append_of_le_length (Nat.le_of_lt (List.snd_lt_of_mem_zipIdx he))]
    rw [firsts, List.zipIdx_append, List.filter_append, hold, List.map_append, ih,
      List.eraseDups_append]
    congr 1
    by_cases h : n ∈ ns <;> simp [List.removeAll, List.eraseDups_cons, h]

/-- First places come in order. -/
theorem pairwise_firsts (ns : List String) : (firsts ns).Pairwise fun a b => a.2 < b.2 :=
  (Slip.pairwise_zipIdx ns 0).filter _

/-- The attempts of some wagers with their sites, in the order of the check. -/
def sited (S : List String) (ws : List Wager) : List (Site × Attempt) :=
  ws.zipIdx.flatMap fun e => (firsts e.1.numbers).flatMap fun n => S.zipIdx.map fun s =>
    (⟨e.2, n.2, s.2⟩, ⟨e.1.playType, n.1, s.1, e.1.each * e.1.numbers.count n.1⟩)

/-- Without their sites, these are the attempts of the wagers. -/
theorem map_snd_sited (S : List String) (ws : List Wager) :
    (sited S ws).map Prod.snd = ws.flatMap (Attempt.ofWager S) := by
  -- The sites are dropped from the inside out: schedules, numbers, wagers.
  have hschedules : ∀ (i j : Nat) (f : String → Attempt),
      (S.zipIdx.map fun s => ((⟨i, j, s.2⟩ : Site), f s.1)).map Prod.snd = S.map f := by
    intro i j f
    rw [List.map_map]
    exact Slip.map_fst_zipIdx f S 0
  have hwager : ∀ (w : Wager) (i : Nat),
      ((firsts w.numbers).flatMap fun n => S.zipIdx.map fun s =>
        ((⟨i, n.2, s.2⟩ : Site),
          (⟨w.playType, n.1, s.1, w.each * w.numbers.count n.1⟩ : Attempt))).map Prod.snd =
        Attempt.ofWager S w := by
    intro w i
    rw [Attempt.ofWager, ← map_fst_firsts, List.flatMap_map, List.map_flatMap]
    exact List.flatMap_congr fun n _ => hschedules i n.2
      fun s => ⟨w.playType, n.1, s, w.each * w.numbers.count n.1⟩
  rw [sited, List.map_flatMap, ← Slip.flatMap_fst_zipIdx _ ws 0]
  exact List.flatMap_congr fun e _ => hwager e.1 e.2

/-- Attempts come in the order of their sites: by wager, number and schedule. -/
theorem pairwise_sited (S : List String) (ws : List Wager) :
    (sited S ws).Pairwise fun a b => a.1.Before b.1 := by
  -- The order of sites is that of three places in turn, as the lists are nested.
  rw [sited, List.pairwise_flatMap]
  constructor
  · intro w _
    rw [List.pairwise_flatMap]
    constructor
    · intro n _
      rw [List.pairwise_map]
      exact (Slip.pairwise_zipIdx S 0).imp fun h => .inr ⟨rfl, .inr ⟨rfl, h⟩⟩
    · refine (pairwise_firsts w.1.numbers).imp fun h => ?_
      intro a ha b hb
      obtain ⟨_, _, rfl⟩ := List.mem_map.1 ha
      obtain ⟨_, _, rfl⟩ := List.mem_map.1 hb
      exact .inr ⟨rfl, .inl h⟩
  · refine (Slip.pairwise_zipIdx ws 0).imp fun h => ?_
    intro a ha b hb
    obtain ⟨_, _, ha⟩ := List.mem_flatMap.1 ha
    obtain ⟨_, _, hb⟩ := List.mem_flatMap.1 hb
    obtain ⟨_, _, rfl⟩ := List.mem_map.1 ha
    obtain ⟨_, _, rfl⟩ := List.mem_map.1 hb
    exact .inl h

/-- **An attempt belongs to each site whose number comes there for the first time,** with the stake
of all repeats. -/
theorem mem_sited {p : Site} {a : Attempt} : (p, a) ∈ sited S ws ↔
    ∃ w, ws[p.wager]? = some w ∧ a.playType = w.playType ∧ w.numbers[p.number]? = some a.number ∧
      a.number ∉ w.numbers.take p.number ∧ a.stake = w.each * w.numbers.count a.number ∧
        S[p.schedule]? = some a.schedule := by
  simp only [sited, List.mem_flatMap, List.mem_map, mem_firsts, List.mem_zipIdx_iff_getElem?]
  constructor
  · rintro ⟨⟨w, i⟩, hw, ⟨n, j⟩, ⟨hn, hfirst⟩, ⟨s, k⟩, hs, heq⟩
    obtain ⟨rfl, rfl⟩ := Prod.mk.inj heq
    exact ⟨w, hw, rfl, hn, hfirst, rfl, hs⟩
  · rintro ⟨w, hw, htype, hn, hfirst, hstake, hs⟩
    refine ⟨(w, p.wager), hw, (a.number, p.number), ⟨hn, hfirst⟩, (a.schedule, p.schedule), hs, ?_⟩
    rw [← htype, ← hstake]

/-- An attempt is a violation if the limit that governs it is not zero and is exceeded. -/
theorem violation?_eq_some_iff (hl : l.Numeric) {a : Attempt} {v : Violation} :
    a.violation? l U = .ok (some v) ↔ (∃ y, Value.doubleOfInt a.stake = .ok y) ∧
      ⟨v.playType, v.number, v.schedule, v.attempt⟩ = a ∧ l.Governs a.playType a.risk v.allowed ∧
        v.allowed.isZero = false ∧ v.used = U.get a.risk ∧
          v.allowed.lt (v.used.add (.ofInt v.attempt)) = true := by
  unfold Attempt.violation?
  constructor
  · intro h
    split at h
    · cases h
    · next x hx =>
      obtain ⟨y, hy, h⟩ := bind_eq_ok.1 h
      -- The stake is a double, so what is left of the attempt is its comparison.
      obtain ⟨hlt, hv⟩ := Option.ite_none_right_eq_some.1 (Except.ok.inj h)
      obtain ⟨_, rfl⟩ := Value.doubleOfInt_eq_ok_iff.1 hy
      obtain ⟨hgoverns, hzero⟩ := (Limits.effective?_eq_some_iff hl).1 hx
      obtain rfl := Option.some.inj hv
      exact ⟨⟨_, hy⟩, rfl, hgoverns, hzero, rfl, hlt⟩
  · rintro ⟨⟨y, hy⟩, rfl, hgoverns, hzero, hused, hlt⟩
    obtain ⟨_, rfl⟩ := Value.doubleOfInt_eq_ok_iff.1 hy
    rw [(Limits.effective?_eq_some_iff hl).2 ⟨hgoverns, hzero⟩, ← hused]
    refine bind_eq_ok.2 ⟨_, hy, ?_⟩
    rw [if_pos hlt]

/-- The violations with their sites, in the order of the check. -/
def located (S : List String) (ws : List Wager) (l : Limits) (U : Amounts) :
    List (Site × Violation) :=
  (sited S ws).filterMap fun e => (e.2.violation? l U).toOption.join.map (e.1, ·)

/-- Without their sites, these are the violations. -/
theorem map_snd_located (h : violations ws S l U = .ok vs) :
    (located S ws l U).map Prod.snd = vs := by
  obtain ⟨found, hfound, h⟩ := bind_eq_ok.1 h
  obtain rfl := Except.ok.inj h
  -- The check succeeded, so each attempt has its result, and these are what is filtered.
  have hattempts : (sited S ws).map (fun e => e.2.violation? l U) = found.map .ok := by
    rw [← mapM_eq_ok_iff.1 hfound, ← map_snd_sited, List.map_map]
    rfl
  calc (located S ws l U).map Prod.snd
      = (sited S ws).filterMap fun e => (e.2.violation? l U).toOption.join := by
        rw [located, List.map_filterMap]
        exact List.filterMap_congr fun e _ => by simp [Option.map_map, Function.comp_def]
    _ = ((sited S ws).map fun e => e.2.violation? l U).filterMap fun o => o.toOption.join := by
        rw [List.filterMap_map]
        rfl
    _ = found.filterMap id := by
        rw [hattempts, List.filterMap_map]
        rfl

/-- A violation belongs to a site if the attempt there is one. -/
theorem mem_located {p : Site} {v : Violation} : (p, v) ∈ located S ws l U ↔
    ∃ a, (p, a) ∈ sited S ws ∧ a.violation? l U = .ok (some v) := by
  rw [located, List.mem_filterMap]
  constructor
  · rintro ⟨⟨q, a⟩, ha, h⟩
    obtain ⟨w, hw, hpv⟩ := Option.map_eq_some_iff.1 h
    obtain ⟨rfl, rfl⟩ := Prod.mk.inj hpv
    refine ⟨a, ha, ?_⟩
    -- An attempt that fails is left out here, though it makes the whole check fail.
    cases hv : a.violation? l U with
    | error f => simp [hv, Except.toOption] at hw
    | ok o => rw [hv] at hw; exact congrArg Except.ok hw
  · rintro ⟨a, ha, h⟩
    refine ⟨(p, a), ha, ?_⟩
    simp only [h]
    rfl

/-- Violations come in the order of their sites. -/
theorem pairwise_located : (located S ws l U).Pairwise fun e f => e.1.Before f.1 := by
  rw [located, List.pairwise_filterMap]
  refine (pairwise_sited S ws).imp fun {a b} h => ?_
  intro c hc d hd
  obtain ⟨_, _, rfl⟩ := Option.map_eq_some_iff.1 hc
  obtain ⟨_, _, rfl⟩ := Option.map_eq_some_iff.1 hd
  exact h

/-- Where the check succeeds, it locates exactly the limits that are exceeded. -/
theorem mem_located_iff_exceeds (hl : l.Numeric) (h : violations ws S l U = .ok vs) {p : Site}
    {v : Violation} : (p, v) ∈ located S ws l U ↔ Exceeds ws S l U p v := by
  rw [mem_located]
  constructor
  · rintro ⟨a, ha, hv⟩
    obtain ⟨w, hw, htype, hn, hfirst, hstake, hs⟩ := mem_sited.1 ha
    obtain ⟨_, rfl, hgoverns, hzero, hused, hlt⟩ := (violation?_eq_some_iff hl).1 hv
    exact ⟨⟨w, hw, htype, hn, hfirst, hstake⟩, hs, hgoverns, hzero, hused, hlt⟩
  · intro hp
    obtain ⟨w, hw, htype, hn, hfirst, hstake⟩ := hp.wager
    let a : Attempt := ⟨v.playType, v.number, v.schedule, v.attempt⟩
    have ha : (p, a) ∈ sited S ws := mem_sited.2 ⟨w, hw, htype, hn, hfirst, hstake, hp.schedule⟩
    have hmem : a ∈ ws.flatMap (Attempt.ofWager S) := by
      rw [← map_snd_sited]
      exact List.mem_map.2 ⟨_, ha, rfl⟩
    have heffective : l.effective? a.playType a.risk = some v.allowed :=
      (Limits.effective?_eq_some_iff hl).2 ⟨hp.allowed, hp.allowed_ne_zero⟩
    -- The check succeeds, so the stake is a double.
    obtain ⟨found, hfound, _⟩ := bind_eq_ok.1 h
    obtain ⟨o, _, ho⟩ := exists_of_mapM_eq_ok hfound a hmem
    unfold Attempt.violation? at ho
    rw [heffective] at ho
    obtain ⟨y, hy, _⟩ := bind_eq_ok.1 ho
    exact ⟨a, ha, (violation?_eq_some_iff hl).2
      ⟨⟨y, hy⟩, rfl, hp.allowed, hp.allowed_ne_zero, hp.used, hp.exceeds⟩⟩

/-- **What is reported is exactly what exceeds,** each site once, in the order of the check. -/
theorem violations_exact (hl : l.Numeric) (h : violations ws S l U = .ok vs) :
    ∃ found : List (Site × Violation), found.map Prod.snd = vs ∧
      (found.Pairwise fun e f => e.1.Before f.1) ∧
        ∀ p v, (p, v) ∈ found ↔ Exceeds ws S l U p v :=
  ⟨located S ws l U, map_snd_located h, pairwise_located,
    fun _ _ => mem_located_iff_exceeds hl h⟩

/-- A wager that repeats a number, in a schedule that is listed twice, under both limits: the
smaller one counts. -/
theorem violations_exact_repeated :
    ∃ found : List (Site × Violation),
      found.map Prod.snd =
        [⟨"12", .fijo, "s1", .ofInt 8, .zero false, 10⟩,
          ⟨"12", .fijo, "s1", .ofInt 8, .zero false, 10⟩,
          ⟨"34", .fijo, "s1", .ofInt 20, .ofInt 16, 5⟩,
          ⟨"34", .fijo, "s1", .ofInt 20, .ofInt 16, 5⟩] ∧
      (found.Pairwise fun e f => e.1.Before f.1) ∧
      ∀ p v, (p, v) ∈ found ↔
        Exceeds [⟨.fijo, ["12", "34", "12"], 5, 15, none⟩] ["s1", "s1"]
          ⟨[(.ofNumber "s1" .fijo "12", .ofInt 8)], [("fijo", .ofInt 20)]⟩
          [(.ofNumber "s1" .fijo "34", .ofInt 16)] p v :=
  violations_exact ⟨by decide +kernel, by decide +kernel⟩ (by decide +kernel)

end Exposure
end Lottery
