/-
# Two ways to a balance

For settlements that are all in one group, the tally of the group and the summary have the same
totals (`totals_eq`).  Their balances are computed in different ways:

| balance | from | rounded |
| --- | --- | --- |
| of the tally | the totals in cents | to the nearest hundredth, a half to the even one |
| of the summary | the sums before rounding | to cents, a half up |

Each amount of a settlement is the double nearest to a number of cents.  As long as `n` settlements
come to `T` cents altogether, collected and paid, with `(n + 3) * (T + 600) < 2 ^ 52`, no sum or
difference strays half a cent, and both balances are the one in exact cents (`balances_agree`).
Beyond, a difference may be halfway between two cents, and the two ways part there
(`balances_differ`).

The tally is one of `group_settlements` with its property `balance`, the summary
is that of `summarize`.
-/

import Lottery.Proofs.Money.Cents
import Lottery.Proofs.Play.Grouping

namespace Lottery

open Binary64 (roundoff)

variable {g : Grouping} {s : Settlement} {ss : List Settlement} {t : Tally} {sm : Summary}
  {xs : List Binary64}

/-! ### Sums of cents -/

/-- The cents of some amounts, added up. -/
def netCents (xs : List Binary64) : ℤ :=
  (xs.map Binary64.cents).sum

/-- The same without their signs. -/
def grossCents (xs : List Binary64) : ℕ :=
  (xs.map fun x => x.cents.natAbs).sum

/-- One more amount adds its cents. -/
@[simp] theorem netCents_cons (x : Binary64) (xs : List Binary64) :
    netCents (x :: xs) = x.cents + netCents xs :=
  List.sum_cons

/-- It adds their size to the gross. -/
@[simp] theorem grossCents_cons (x : Binary64) (xs : List Binary64) :
    grossCents (x :: xs) = x.cents.natAbs + grossCents xs :=
  List.sum_cons

/-- No amount has more cents than all together, signs aside. -/
theorem natAbs_cents_le_gross {x : Binary64} (hx : x ∈ xs) : x.cents.natAbs ≤ grossCents xs :=
  List.single_le_sum (fun _ _ => Nat.zero_le _) _ (List.mem_map_of_mem hx)

/-- Amounts of different signs cancel, so the net is at most the gross. -/
theorem natAbs_netCents_le (xs : List Binary64) : (netCents xs).natAbs ≤ grossCents xs := by
  induction xs with
  | nil => rfl
  | cons x xs ih =>
    rw [netCents_cons, grossCents_cons]
    omega

/-- The exact sum of amounts, in hundredths. -/
theorem sum_map_cents_div (xs : List Binary64) :
    (xs.map fun x => (x.cents / 100 : ℚ)).sum = netCents xs / 100 := by
  induction xs with
  | nil => simp [netCents]
  | cons x xs ih =>
    rw [List.map_cons, List.sum_cons, ih, netCents_cons, Int.cast_add, add_div]

/-- The exact sum of their sizes. -/
theorem sum_map_abs_cents_div (xs : List Binary64) :
    (xs.map fun x => |(x.cents / 100 : ℚ)|).sum = grossCents xs / 100 := by
  induction xs with
  | nil => simp [grossCents]
  | cons x xs ih =>
    rw [List.map_cons, List.sum_cons, ih, grossCents_cons, Nat.cast_add, add_div, abs_div_hundred]

/-- How far a sum of `n` amounts of `T` cents altogether strays. -/
def stray (n T : ℕ) : ℚ :=
  roundoff * (T / 100 + n * (T / 100 + 3))

/-- A sum may stray by something, or by nothing. -/
theorem stray_nonneg (n T : ℕ) : 0 ≤ stray n T := by
  have hn := n.cast_nonneg (α := ℚ)
  have hT := T.cast_nonneg (α := ℚ)
  have hr := Binary64.roundoff_pos
  unfold stray
  positivity

/-- `n` amounts collected and `n` paid are few enough if what all may stray stays below half a
cent. -/
theorem stray_lt {n C P : ℕ} (h : (n + 3) * (C + P + 600) < 2 ^ 52) :
    stray n C + stray n P + roundoff * (2 * ((C + P) / 100) + 5) < 1 / 200 := by
  have h' : ((n + 3) * (C + P + 600) : ℚ) < 2 ^ 52 := by exact_mod_cast h
  have hn := n.cast_nonneg (α := ℚ)
  rw [stray, stray, roundoff]
  norm_num at h' ⊢
  linarith

/-- **A sum of amounts in cents** is near the sum of the cents. -/
theorem near_sum_of_isCents (hxs : ∀ x ∈ xs, ∃ k, IsCents x k) (hT : grossCents xs ≤ 2 ^ 51)
    (hstray : stray xs.length (grossCents xs) ≤ 1) :
    (Binary64.sum xs).Near (netCents xs / 100) (stray xs.length (grossCents xs)) := by
  -- Each summand is the double nearest to its cents, so they stray as rounding does.
  have hq : ∀ x ∈ xs, x.Near (x.cents / 100) (roundoff * (|(x.cents / 100 : ℚ)| + 1)) := by
    intro x hx
    obtain ⟨k, hk⟩ := hxs x hx
    rw [hk.cents_eq ((natAbs_cents_le_gross hx).trans hT)]
    exact hk.near
  have hsize : (xs.map fun x => |(x.cents / 100 : ℚ)|).sum ≤ 2 ^ 99 := by
    have hT' : (grossCents xs : ℚ) ≤ 2 ^ 51 := by exact_mod_cast hT
    have hlarge : (2 : ℚ) ^ 51 ≤ 2 ^ 99 := by norm_num
    rw [sum_map_abs_cents_div]
    linarith [(grossCents xs).cast_nonneg (α := ℚ)]
  have hsum := Binary64.near_sum hq hsize
  rw [sum_map_abs_cents_div, sum_map_cents_div] at hsum
  exact hsum hstray

/-- The exact sum is at most the sum of the sizes. -/
theorem abs_netCents_div_le (xs : List Binary64) :
    |(netCents xs / 100 : ℚ)| ≤ grossCents xs / 100 := by
  rw [abs_div_hundred]
  exact div_le_div_of_nonneg_right (Nat.cast_le.2 (natAbs_netCents_le xs)) (by norm_num)

/-- **The total of few enough amounts** is that of the cents. -/
theorem isCents_ofDouble_sum {y : Binary64} (hxs : ∀ x ∈ xs, ∃ k, IsCents x k)
    (hT : grossCents xs ≤ 2 ^ 51)
    (hstray : stray xs.length (grossCents xs) + roundoff * (grossCents xs / 100 + 3) < 1 / 200)
    (hy : Money.ofDouble (.sum xs) = .ok y) : IsCents y (netCents xs) := by
  have hnet := abs_netCents_div_le xs
  have hround : 0 ≤ roundoff * (grossCents xs / 100 + 3 : ℚ) := by
    have := Binary64.roundoff_pos
    positivity
  have hsum := near_sum_of_isCents hxs hT (by linarith)
  -- The shortest decimal adds its own error, bounded by the size of the sum.
  have hscaled : roundoff * (|(netCents xs / 100 : ℚ)| + stray xs.length (grossCents xs) + 2) ≤
      roundoff * (grossCents xs / 100 + 3) :=
    mul_le_mul_of_nonneg_left (by linarith) Binary64.roundoff_pos.le
  obtain ⟨y', hy', hcents⟩ := exists_isCents_ofDouble hsum (by linarith)
    ((natAbs_netCents_le xs).trans hT)
  rwa [Except.ok.inj (hy.symm.trans hy')]

/-! ### Balances of amounts -/

section Amounts

variable {cs ps : List Binary64} {c p : Binary64} (hcs : ∀ x ∈ cs, ∃ k, IsCents x k)
  (hps : ∀ x ∈ ps, ∃ k, IsCents x k) (hlen : ps.length = cs.length)
  (h : (cs.length + 3) * (grossCents cs + grossCents ps + 600) < 2 ^ 52)

omit hcs hps hlen in
include h in
/-- The two totals together stay below `2 ^ 51` cents, with room for rounding. -/
theorem grossCents_add_lt : grossCents cs + grossCents ps + 200 < 2 ^ 51 := by
  have hle : 3 * (grossCents cs + grossCents ps + 600) ≤
      (cs.length + 3) * (grossCents cs + grossCents ps + 600) :=
    Nat.mul_le_mul_right _ (Nat.le_add_left 3 _)
  omega

include hcs hps hlen h

/-- The totals of few enough amounts are those in exact cents. -/
theorem isCents_totals (hc : Money.ofDouble (.sum cs) = .ok c)
    (hp : Money.ofDouble (.sum ps) = .ok p) :
    IsCents c (netCents cs) ∧ IsCents p (netCents ps) := by
  -- The bound of the hypothesis is shared by both sums, each of which has its part of it.
  have hgross := grossCents_add_lt h
  have hstray := stray_lt h
  have hstray₁ := stray_nonneg cs.length (grossCents cs)
  have hstray₂ := stray_nonneg cs.length (grossCents ps)
  have hC := (grossCents cs).cast_nonneg (α := ℚ)
  have hP := (grossCents ps).cast_nonneg (α := ℚ)
  have hround₁ : roundoff * (grossCents cs / 100 + 3) ≤
      roundoff * (2 * ((grossCents cs + grossCents ps) / 100) + 5) :=
    mul_le_mul_of_nonneg_left (by linarith) Binary64.roundoff_pos.le
  have hround₂ : roundoff * (grossCents ps / 100 + 3) ≤
      roundoff * (2 * ((grossCents cs + grossCents ps) / 100) + 5) :=
    mul_le_mul_of_nonneg_left (by linarith) Binary64.roundoff_pos.le
  constructor
  · exact isCents_ofDouble_sum hcs (by omega) (by linarith) hc
  · exact isCents_ofDouble_sum hps (by omega) (by rw [hlen]; linarith) hp

/-- **The balance of the totals,** to the nearest hundredth, is the one in exact cents. -/
theorem isCents_nearestHundredth_totals (hc : Money.ofDouble (.sum cs) = .ok c)
    (hp : Money.ofDouble (.sum ps) = .ok p) :
    IsCents (c.sub p).nearestHundredth (netCents cs - netCents ps) := by
  obtain ⟨hcents, hcents'⟩ := isCents_totals hcs hps hlen h hc hp
  have hgross := grossCents_add_lt h
  have hnet := natAbs_netCents_le cs
  have hnet' := natAbs_netCents_le ps
  exact hcents.nearestHundredth_sub hcents' (by omega)

/-- **The balance of the sums before rounding,** half up, is the one in exact cents too. -/
theorem isCents_ofDouble_sub {b : Binary64}
    (hb : Money.ofDouble ((Binary64.sum cs).sub (.sum ps)) = .ok b) :
    IsCents b (netCents cs - netCents ps) := by
  have hgross := grossCents_add_lt h
  have hstray := stray_lt h
  have hstray₁ := stray_nonneg cs.length (grossCents cs)
  have hstray₂ := stray_nonneg cs.length (grossCents ps)
  have hround : 0 ≤ roundoff * (2 * ((grossCents cs + grossCents ps) / 100) + 5 : ℚ) := by
    have := Binary64.roundoff_pos
    positivity
  -- Both sums have strayed before they are subtracted, and the difference is rounded twice.
  have hsum₁ := near_sum_of_isCents hcs (by omega) (by linarith)
  have hsum₂ := near_sum_of_isCents hps (by omega) (by rw [hlen]; linarith)
  rw [hlen] at hsum₂
  have hnet := natAbs_netCents_le cs
  have hnet' := natAbs_netCents_le ps
  have hsizes : (((netCents cs).natAbs : ℚ) + (netCents ps).natAbs) ≤
      grossCents cs + grossCents ps := by
    exact_mod_cast Nat.add_le_add hnet hnet'
  have hscaled : roundoff * (2 * (((netCents cs).natAbs + (netCents ps).natAbs) / 100) + 5) ≤
      roundoff * (2 * ((grossCents cs + grossCents ps) / 100) + 5) :=
    mul_le_mul_of_nonneg_left (by linarith) Binary64.roundoff_pos.le
  obtain ⟨b', hb', hcents⟩ :=
    exists_isCents_ofDouble_sub hsum₁ hsum₂ (by omega) (by linarith)
  rwa [Except.ok.inj (hb.symm.trans hb')]

end Amounts

/-! ### What is settled -/

/-- What a value is rounded to stands for whole cents. -/
theorem exists_isCents_of_ofDouble {x y : Binary64} (h : Money.ofDouble x = .ok y) :
    ∃ k, IsCents y k := by
  obtain ⟨negative, n, hn, rfl⟩ := Money.exists_ofHundredths (v := .real x) h
  exact ⟨_, negative, n, hn, rfl, rfl⟩

/-- Nothing is no cents. -/
theorem isCents_zero : IsCents (.zero false) 0 :=
  ⟨false, 0, by decide, rfl, (Money.ofHundredths_zero false).symm⟩

/-- **A settlement collects and pays whole cents.** -/
theorem exists_isCents_of_settle {p : Play} {d : Option Draw} {numbers : List String}
    {prices : Option Price.Table} (h : p.settle d numbers prices = .ok s) :
    (∃ k, IsCents s.collected k) ∧ ∃ k, IsCents s.pay k := by
  -- Without a draw the pay is zero, which is cents too.
  cases d with
  | none =>
    obtain ⟨hcollected, -, -, -, -, hpay⟩ := Play.settle_none_eq_ok h
    obtain ⟨x, -, hx⟩ := bind_eq_ok.1 hcollected
    exact ⟨exists_isCents_of_ofDouble hx, 0, hpay ▸ isCents_zero⟩
  | some d =>
    obtain ⟨hcollected, -, -, prize, -, -, hpay, -⟩ := Play.settle_some_eq_ok h
    obtain ⟨x, -, hx⟩ := bind_eq_ok.1 hcollected
    exact ⟨exists_isCents_of_ofDouble hx, exists_isCents_of_ofDouble hpay⟩

namespace Settlement

/-- What was collected for some settlements. -/
def collections (ss : List Settlement) : List Binary64 :=
  ss.map fun s => s.collected

/-- What was paid for some settlements. -/
def payments (ss : List Settlement) : List Binary64 :=
  ss.map fun s => s.pay

/-- What some settlements come to in cents, collected and paid, without signs. -/
def turnover (ss : List Settlement) : ℕ :=
  grossCents (collections ss) + grossCents (payments ss)

/-- The exact balance of some settlements in cents. -/
def exactBalance (ss : List Settlement) : ℤ :=
  netCents (collections ss) - netCents (payments ss)

/-- The only tally is that of all settlements. -/
theorem members_of_group (h : group g ss = .ok [t]) : members g t.key ss = ss := by
  have hparts := partitions_of_group h
  have hplays := hparts.plays_eq t List.mem_cons_self
  have hsum := hparts.sum_plays
  rw [List.map_singleton, List.sum_singleton, hplays] at hsum
  exact List.filter_sublist.eq_of_length hsum

/-- A summary rounds three doubles: both sums and the difference of the sums as they were before. -/
theorem summarize_eq_ok (h : summarize ss = .ok sm) :
    Money.ofDouble (.sum (collections ss)) = .ok sm.collected ∧
      Money.ofDouble (.sum (payments ss)) = .ok sm.paid ∧
      Money.ofDouble ((Binary64.sum (collections ss)).sub (.sum (payments ss))) =
        .ok sm.balance := by
  obtain ⟨c, hc, h⟩ := bind_eq_ok.1 h
  obtain ⟨p, hp, h⟩ := bind_eq_ok.1 h
  obtain ⟨b, hb, h⟩ := bind_eq_ok.1 h
  obtain rfl := Except.ok.inj h
  exact ⟨hc, hp, hb⟩

/-- **The totals are the same.** -/
theorem totals_eq (hg : group g ss = .ok [t]) (hs : summarize ss = .ok sm) :
    t.collected = sm.collected ∧ t.paid = sm.paid := by
  have hparts := partitions_of_group hg
  have hcollected := hparts.collected_eq t List.mem_cons_self
  have hpaid := hparts.paid_eq t List.mem_cons_self
  rw [members_of_group hg] at hcollected hpaid
  obtain ⟨hc, hp, -⟩ := summarize_eq_ok hs
  exact ⟨Except.ok.inj (hcollected.symm.trans hc), Except.ok.inj (hpaid.symm.trans hp)⟩

/-! ### Balances of settlements -/

/-- **The two balances agree on everyday amounts.**  Settlements that are all in one group have the
same totals in the tally and in the summary.  If there are `n` of them and they come to `T` cents,
with `(n + 3) * (T + 600) < 2 ^ 52`, the two balances are equal too: both stand for the exact
balance in cents. -/
theorem balances_agree
    (hss : ∀ s ∈ ss, ∃ p d numbers prices, Play.settle p d numbers prices = .ok s)
    (hg : group g ss = .ok [t]) (hs : summarize ss = .ok sm) :
    t.collected = sm.collected ∧ t.paid = sm.paid ∧
      ((ss.length + 3) * (turnover ss + 600) < 2 ^ 52 →
        t.balance.eq sm.balance = true ∧ IsCents t.balance (exactBalance ss) ∧
          IsCents sm.balance (exactBalance ss)) := by
  obtain ⟨hcollected, hpaid⟩ := totals_eq hg hs
  refine ⟨hcollected, hpaid, fun h => ?_⟩
  obtain ⟨hc, hp, hb⟩ := summarize_eq_ok hs
  -- Settled amounts are whole cents, so the sums are about whole numbers of cents.
  have hcs : ∀ x ∈ collections ss, ∃ k, IsCents x k := by
    intro x hx
    obtain ⟨s, hs, rfl⟩ := List.mem_map.1 hx
    obtain ⟨p, d, numbers, prices, hsettle⟩ := hss s hs
    exact (exists_isCents_of_settle hsettle).1
  have hps : ∀ x ∈ payments ss, ∃ k, IsCents x k := by
    intro x hx
    obtain ⟨s, hs, rfl⟩ := List.mem_map.1 hx
    obtain ⟨p, d, numbers, prices, hsettle⟩ := hss s hs
    exact (exists_isCents_of_settle hsettle).2
  have hlen : (payments ss).length = (collections ss).length := by
    rw [payments, collections, List.length_map, List.length_map]
  have hfew : ((collections ss).length + 3) *
      (grossCents (collections ss) + grossCents (payments ss) + 600) < 2 ^ 52 := by
    rwa [collections, List.length_map]
  have htally : IsCents t.balance (exactBalance ss) := by
    rw [Tally.balance, hcollected, hpaid]
    exact isCents_nearestHundredth_totals hcs hps hlen hfew hc hp
  have hsummary : IsCents sm.balance (exactBalance ss) :=
    isCents_ofDouble_sub hcs hps hlen hfew hb
  exact ⟨htally.eq_true hsummary, htally, hsummary⟩

/-- The draw `134 5684`. -/
def drawn : Draw :=
  ⟨1, ⟨3, 4⟩, ⟨5, 6⟩, ⟨8, 4⟩⟩

/-- A play on `34`, for a stake and a total. -/
def onThirtyFour (stake total : Binary64) : Play :=
  ⟨.text "fijo", .text "34", .real stake, .text "s1", .text "d1", .real total, .text "", .text "",
    .text "", .text ""⟩

/-- Of two plays for `0.1` and `0.2` the second wins 80: both balances are `-79.7`. -/
theorem balances_agree_tenths :
    ∃ s₁ s₂ t sm,
      (onThirtyFour (.zero false) (.ofHundredths false 10)).settle none [] (some .reference) =
        .ok s₁ ∧
      (onThirtyFour (.ofInt 1) (.ofHundredths false 20)).settle (some drawn) []
        (some .reference) = .ok s₂ ∧
      group .day [s₁, s₂] = .ok [t] ∧ summarize [s₁, s₂] = .ok sm ∧
      turnover [s₁, s₂] = 8030 ∧ exactBalance [s₁, s₂] = -7970 ∧
      t.balance.eq sm.balance = true ∧ IsCents t.balance (-7970) := by
  -- One computation gives all the data, so that nothing is computed twice.
  obtain ⟨s₁, hs₁, s₂, hs₂, ts, hts, sm, hsm, hone, hturnover, hexact⟩ : ∃ s₁,
      (onThirtyFour (.zero false) (.ofHundredths false 10)).settle none [] (some .reference) =
        .ok s₁ ∧ ∃ s₂,
      (onThirtyFour (.ofInt 1) (.ofHundredths false 20)).settle (some drawn) []
        (some .reference) = .ok s₂ ∧ ∃ ts, group .day [s₁, s₂] = .ok ts ∧
      ∃ sm, summarize [s₁, s₂] = .ok sm ∧ ts.length = 1 ∧ turnover [s₁, s₂] = 8030 ∧
        exactBalance [s₁, s₂] = -7970 := by
    decide +kernel
  obtain ⟨t, rfl⟩ := List.length_eq_one_iff.1 hone
  have hsettled : ∀ s ∈ [s₁, s₂], ∃ p d numbers prices,
      Play.settle p d numbers prices = .ok s := by
    simp only [List.mem_cons, List.not_mem_nil, or_false, forall_eq_or_imp, forall_eq]
    exact ⟨⟨_, _, _, _, hs₁⟩, ⟨_, _, _, _, hs₂⟩⟩
  obtain ⟨heq, hcents, -⟩ := (balances_agree hsettled hts hsm).2.2 (by norm_num [hturnover])
  exact ⟨s₁, s₂, t, sm, hs₁, hs₂, hts, hsm, hturnover, hexact, heq, hexact ▸ hcents⟩

/-- **Beyond them the balances may differ.**  A play for `40000000000001.73` wins
`40000000000001.6`.  The difference of the two doubles is `0.125`: `0.12` in the tally, where the
half goes to the even hundredth, and `0.13` in the summary. -/
theorem balances_differ :
    ∃ s t sm,
      (onThirtyFour (.ofHundredths false 50000000000002)
        (.ofHundredths false 4000000000000173)).settle (some drawn) [] (some .reference) = .ok s ∧
      s.collected = .ofHundredths false 4000000000000173 ∧
      s.pay = .ofHundredths false 4000000000000160 ∧
      group .day [s] = .ok [t] ∧ summarize [s] = .ok sm ∧
      t.balance = .ofHundredths false 12 ∧ sm.balance = .ofHundredths false 13 ∧
      t.balance.eq sm.balance = false := by
  -- The amounts are so large that the difference of their doubles is 0.125, not 0.13.
  obtain ⟨s, hs, hcollected, hpay, ts, hts, sm, hsm, hbalance, hbalance'⟩ : ∃ s,
      (onThirtyFour (.ofHundredths false 50000000000002)
        (.ofHundredths false 4000000000000173)).settle (some drawn) [] (some .reference) = .ok s ∧
      s.collected = .ofHundredths false 4000000000000173 ∧
      s.pay = .ofHundredths false 4000000000000160 ∧ ∃ ts, group .day [s] = .ok ts ∧
      ∃ sm, summarize [s] = .ok sm ∧ ts.map Tally.balance = [.ofHundredths false 12] ∧
        sm.balance = .ofHundredths false 13 := by
    decide +kernel
  obtain ⟨t, rfl, htally⟩ := List.map_eq_singleton_iff.1 hbalance
  refine ⟨s, t, sm, hs, hcollected, hpay, hts, hsm, htally, hbalance', ?_⟩
  rw [htally, hbalance']
  decide +kernel

end Settlement
end Lottery
