/-
# Every request is answered or refused, with a few exceptions

A request that is posted to a view is answered, or refused with an explanation
(`Response.IsRegular`), unless its payload stands too deep inside itself or one of
these breaks the view that it is posted to (`View.FailsAt`):

| view | path | breaks on |
| --- | --- | --- |
| `parse_result_view` | `/api/results/parse` | nothing |
| `parse_bets_view` | `/api/bets/parse` | a sum of totals with too many digits |
| `evaluate_bet_view` | `/api/bets/evaluate` | `BetFails` |
| `statistics_view` | `/api/stats/` and a grouping | `SettlingFails`, `SummingFails` |
| `check_limits_view` | `/api/limits/check` | `CaseFails`, `JudgingFails` |

`respond_isRegular_iff` says that nothing else does, and that what breaks gets no
more than the status 500.  It holds under every framework of which no more is known
than what is documented (`Framework.Lawful`), and `plain_lawful` gives one.
-/

import Lottery.Proofs.Json
import Lottery.Proofs.Service.Cases
import Lottery.Proofs.Service.Statistics
import Lottery.Service.Framework

namespace Lottery
namespace Service

/-! ### What breaks a view -/

/-- Is the view one that looks at the payload?  Under a grouping that there is none of it does
not. -/
def View.Reads : View → Prop
  | .stats word => ∃ g, Grouping.ofName? word = some g
  | _ => True

/-- Why a view does not answer some fields. -/
def View.FailsOn (s : Price.Surroundings) (fields : List (String × Value)) : View → Prop
  | .parseBets => ∃ o, slipOf fields = .ok o ∧ o.IsLong
  | .evaluateBet => BetFails s fields
  | .stats word => ∃ g, Grouping.ofName? word = some g ∧
      (SettlingFails s fields ∨ ∃ ss, settlementsOf s fields = .ok ss ∧ SummingFails g ss)
  | .checkLimits => CaseFails fields ∨ ∃ c, caseOf fields = .ok c ∧ JudgingFails c
  | .health | .playTypes | .parseResult => False

/-- Why a view does not answer a payload. -/
inductive View.FailsAt (s : Price.Surroundings) (payload : Except Fault Value) (view : View) :
    Prop where
  /-- It stands too deep inside itself to be read. -/
  | payload (hview : view.Reads) (h : payload = .error .tooDeep)
  /-- The view does not answer its fields. -/
  | fields {fields : List (String × Value)} (hfields : fieldsOf payload = .ok fields)
      (h : view.FailsOn s fields)

section Payload

variable {s : Price.Surroundings} {payload : Except Fault Value} {view : View}

/-- A payload whose reading fails in one way only fails to have fields in that way. -/
theorem fails_fieldsOf (herror : ∀ {f}, payload = .error f → f = .tooDeep) :
    Fails (fieldsOf payload) ↔ payload = .error .tooDeep := by
  unfold fieldsOf
  rw [fails_bind, fails_orRefuse_failed]
  constructor
  · rintro (⟨f, hf⟩ | ⟨v, _, hf⟩)
    · rwa [herror hf] at hf
    -- A payload with fields has them, and any other is explained.
    · cases v with
      | null | object fields => exact absurd hf not_fails_ok
      | bool b | int n | real x | text s | list vs => exact absurd hf not_fails_explained
  · exact fun hf => .inl ⟨_, hf⟩

/-- The fields of a payload without long integers have none. -/
theorem anyLongField_of_fieldsOf (hshort : ∀ {v}, payload = .ok v → v.hasLongInteger = false)
    {fields : List (String × Value)} (h : fieldsOf payload = .ok fields) :
    Value.anyLongField fields = false := by
  obtain ⟨v, hv, h⟩ := bind_eq_ok.1 h
  have hlong := hshort (orRefuse_eq_ok.1 hv)
  cases v with
  | null =>
    obtain rfl := Except.ok.inj h
    rfl
  | object fs =>
    obtain rfl := Except.ok.inj h
    rwa [Value.hasLongInteger] at hlong
  | bool b | int n | real x | text s | list vs => cases h

/-- A view that computes on the fields breaks where the payload is too deep, or with its
computation. -/
theorem breaks_fieldsOf {g : List (String × Value) → Except Refusal Value}
    (herror : ∀ {f}, payload = .error f → f = .tooDeep) (hview : view.Reads)
    (h : ∀ fields, fieldsOf payload = .ok fields → (Breaks (g fields) ↔ view.FailsOn s fields)) :
    Breaks (fieldsOf payload >>= g) ↔ view.FailsAt s payload := by
  rw [breaks_bind, fails_fieldsOf herror]
  constructor
  -- The payload fails, or the view fails on its fields.
  · rintro (hdeep | ⟨fields, hfields, hb⟩)
    · exact .payload hview hdeep
    · exact .fields hfields ((h fields hfields).1 hb)
  · rintro (⟨_, hdeep⟩ | ⟨hfields, hfails⟩)
    · exact .inl hdeep
    · exact .inr ⟨_, hfields, (h _ hfields).2 hfails⟩

end Payload

/-- Whatever the fields, a draw taken apart can be written. -/
theorem not_breaks_parseResult (fields : List (String × Value)) :
    ¬Breaks (.ok (Answer.parseResult fields)) := by
  rw [breaks_ok, Answer.parseResult]
  cases Draw.ofValue? (Value.get fields "raw") with
  | none => exact nofun
  | some d => simp [Value.hasLongInteger, Value.anyLongField, Show.hasLongInteger_draw]

/-! ### Responses -/

/-- An answer, an explanation, or an explanation that there is no such grouping. -/
inductive Response.IsRegular (view : View) : Response → Prop where
  | answer (v : Value) : IsRegular view ⟨200, some v⟩
  | refusal (message : String) : IsRegular view (Reply.explained 400 message).toResponse
  | unknown {word : String} (message : String) (hview : view = .stats word)
      (h : Grouping.ofName? word = none) : IsRegular view (Reply.explained 404 message).toResponse

/-- A regular response is no error of the server. -/
theorem Response.IsRegular.status_ne {view : View} {p : Response} (h : p.IsRegular view) :
    p.status ≠ 500 := by
  cases h with
  | answer v => exact (by decide : 200 ≠ 500)
  | refusal message => exact (by decide : 400 ≠ 500)
  | unknown message hview hg => exact (by decide : 404 ≠ 500)

namespace Framework

/-- A request is posted to a view: that is what its method and its path say.  The texts that it
posts are made of characters. -/
structure Posts (F : Framework) (r : F.Request) (view : View) : Prop where
  method : F.method r = "POST"
  path : F.path r = view.path
  takes : view.method = "POST"
  named : view.IsNamed
  whole : F.IsWhole r

variable {F : Framework} {r : F.Request} {s : Price.Surroundings} {view : View}

/-- It is given to the view. -/
theorem Lawful.respond_eq (hF : F.Lawful) (hr : F.Posts r view) :
    F.respond s r = F.conclude r (view.reply s (F.payload r)) := by
  rw [respond, hF.view?_eq hr.named (hr.method.trans hr.takes.symm) hr.path]

/-- The message of an explanation is no integer. -/
theorem Lawful.send_explained (hF : F.Lawful) (hr : F.Posts r view) (status : Nat)
    (message : String) :
    F.send r (.explained status message) = (Reply.explained status message).toResponse :=
  hF.send_eq hr.method rfl

/-- A computation that breaks ends in no more than the status 500, and any other in a regular
response. -/
theorem Lawful.isRegular_conclude_iff (hF : F.Lawful) (hr : F.Posts r view)
    (x : Except Refusal Value) :
    (Response.IsRegular view (F.conclude r (Reply.of x)) ↔ ¬Breaks x) ∧
      (F.conclude r (Reply.of x) = ⟨500, none⟩ ↔ Breaks x) := by
  -- An answer is sent if it can be shown, an explanation always, and a fault aborts.
  cases x with
  | ok v =>
    rw [breaks_ok]
    cases hlong : v.hasLongInteger with
    | true =>
      have hsend : F.conclude r (Reply.of (.ok v)) = ⟨500, none⟩ := hF.send_long hlong
      rw [hsend]
      exact ⟨iff_of_false nofun (not_not.2 rfl), iff_of_true rfl rfl⟩
    | false =>
      have hsend : F.conclude r (Reply.of (.ok v)) = ⟨200, some v⟩ := hF.send_eq hr.method hlong
      rw [hsend]
      exact ⟨iff_of_true (.answer v) nofun, iff_of_false nofun nofun⟩
  | error e =>
    cases e with
    | explained m =>
      have hsend : F.conclude r (Reply.of (.error (.explained m))) = _ := hF.send_explained hr 400 m
      rw [hsend]
      exact ⟨iff_of_true (.refusal m) not_breaks_explained,
        iff_of_false nofun not_breaks_explained⟩
    | failed f =>
      have habort : F.conclude r (Reply.of (.error (.failed f))) = ⟨500, none⟩ := hF.abort_eq
      have hbreaks : Breaks (.error (.failed f)) := .inl ⟨f, rfl⟩
      rw [habort]
      exact ⟨iff_of_false nofun (not_not.2 hbreaks), iff_of_true rfl hbreaks⟩

/-- So a view that computes on the fields of the payload is regular, except where its computation
is said to fail. -/
theorem Lawful.isRegular_conclude_fieldsOf_iff (hF : F.Lawful) (hr : F.Posts r view)
    (hview : view.Reads) {g : List (String × Value) → Except Refusal Value}
    (hg : ∀ fields, Value.anyLongField fields = false →
      (Breaks (g fields) ↔ view.FailsOn s fields)) :
    (Response.IsRegular view (F.conclude r (Reply.of (fieldsOf (F.payload r) >>= g))) ↔
        ¬view.FailsAt s (F.payload r)) ∧
      (F.conclude r (Reply.of (fieldsOf (F.payload r) >>= g)) = ⟨500, none⟩ ↔
        view.FailsAt s (F.payload r)) := by
  have hbreaks : Breaks (fieldsOf (F.payload r) >>= g) ↔ view.FailsAt s (F.payload r) :=
    breaks_fieldsOf (hF.payload_error hr.whole) hview fun fields hfields =>
      hg fields (anyLongField_of_fieldsOf (hF.payload_short hr.whole) hfields)
  rw [← hbreaks]
  exact hF.isRegular_conclude_iff hr _

/-- A grouping that there is none of is explained.  The payload is not looked at, so nothing of it
can fail. -/
theorem Lawful.isRegular_conclude_unknown {word : String} (hF : F.Lawful)
    (hr : F.Posts r (.stats word)) (hg : Grouping.ofName? word = none) :
    Response.IsRegular (.stats word) (F.conclude r (View.reply s (F.payload r) (.stats word))) ∧
      ¬View.FailsAt s (F.payload r) (.stats word) := by
  constructor
  · have hsend : F.conclude r (.ok (.explained 404 (Fault.unknownGrouping word).message)) = _ :=
      hF.send_explained hr 404 _
    rw [View.reply, hg]
    dsimp only
    rw [hsend]
    exact .unknown _ rfl hg
  · have hnone : ∀ g, Grouping.ofName? word ≠ some g := by
      intro g hg'
      rw [hg] at hg'
      cases hg'
    rintro (⟨⟨g, hg'⟩, _⟩ | ⟨_, g, hg', _⟩)
    · exact hnone g hg'
    · exact hnone g hg'

end Framework

/-- **Every request that is posted to a view is answered or refused with an explanation, unless
its payload is one of those that `View.FailsAt` lists,** while no price file is named.  These get
the status 500 and nothing else. -/
theorem respond_isRegular_iff {F : Framework} {r : F.Request} {s : Price.Surroundings} {view : View}
    (hF : F.Lawful) (hr : F.Posts r view) (hs : s.priceVariable = none) :
    (Response.IsRegular view (F.respond s r) ↔ ¬view.FailsAt s (F.payload r)) ∧
      (F.respond s r = ⟨500, none⟩ ↔ view.FailsAt s (F.payload r)) := by
  rw [hF.respond_eq hr]
  have htakes := hr.takes
  -- Each view computes on the fields of the payload, unless its grouping is none.
  cases view with
  | health | playTypes => exact absurd htakes (by decide)
  | parseResult =>
    have hmap : (fieldsOf (F.payload r)).map Answer.parseResult =
        fieldsOf (F.payload r) >>= fun fields => .ok (Answer.parseResult fields) := by
      cases fieldsOf (F.payload r) <;> rfl
    rw [View.reply, hmap]
    exact hF.isRegular_conclude_fieldsOf_iff hr trivial fun fields _ =>
      iff_of_false (not_breaks_parseResult fields) id
  | parseBets =>
    exact hF.isRegular_conclude_fieldsOf_iff hr trivial fun _ hshort => breaks_parseBets hshort
  | evaluateBet =>
    exact hF.isRegular_conclude_fieldsOf_iff hr trivial fun _ hshort =>
      breaks_evaluateBet hshort hs
  | checkLimits =>
    exact hF.isRegular_conclude_fieldsOf_iff hr trivial fun _ hshort => breaks_checkLimits hshort
  | stats word =>
    cases hg : Grouping.ofName? word with
    | some g =>
      rw [View.reply, hg]
      refine hF.isRegular_conclude_fieldsOf_iff hr ⟨g, hg⟩ fun fields hshort => ?_
      rw [breaks_stats hshort hs hg]
      constructor
      · exact fun hfails => ⟨g, hg, hfails⟩
      · rintro ⟨g', hg', hfails⟩
        obtain rfl := Option.some.inj (hg.symm.trans hg')
        exact hfails
    | none =>
      obtain ⟨hregular, hno⟩ := hF.isRegular_conclude_unknown (s := s) hr hg
      have hne : F.conclude r (View.reply s (F.payload r) (.stats word)) ≠ ⟨500, none⟩ :=
        fun h => hregular.status_ne (congrArg Response.status h)
      exact ⟨iff_of_true hregular hno, iff_of_false hne hno⟩

/-! ### A framework -/

/-- The body of a text counts as null, is read, or is too deep. -/
theorem TextRequest.payload_cases (depth : Nat) (r : TextRequest) :
    r.payload depth = .ok .null ∨
      (∃ cs v, Json.read (.ofDepth depth) cs = .ok v ∧ r.payload depth = .ok v) ∨
      r.payload depth = .error .tooDeep := by
  unfold payload
  split
  · exact .inl rfl
  · split
    · next hread => exact .inr (.inl ⟨_, _, hread, rfl⟩)
    · exact .inl rfl
    · exact .inr (.inr rfl)

/-- **What is documented of a framework can be had:** the plain one is lawful. -/
theorem plain_lawful (depth : Nat) : (Framework.plain depth).Lawful where
  view?_eq {r v} hnamed hmethod hpath := by
    change TextRequest.method r = v.method at hmethod
    change TextRequest.path r = v.path at hpath
    show TextRequest.view? r = some v
    unfold TextRequest.view?
    rw [hpath, View.ofPath?_path hnamed, hmethod, Option.filter_some, beq_self_eq_true]
    rfl
  payload_short {r v} _ h := by
    change TextRequest.payload depth r = .ok v at h
    obtain hnull | ⟨cs, w, hread, hw⟩ | hdeep := TextRequest.payload_cases depth r
    · obtain rfl := Except.ok.inj (hnull.symm.trans h)
      rfl
    · obtain rfl := Except.ok.inj (hw.symm.trans h)
      exact Json.hasLongInteger_read hread
    · cases hdeep.symm.trans h
  payload_error {r f} _ h := by
    change TextRequest.payload depth r = .error f at h
    obtain hnull | ⟨cs, w, hread, hw⟩ | hdeep := TextRequest.payload_cases depth r
    · cases hnull.symm.trans h
    · cases hw.symm.trans h
    · exact Except.error.inj (h.symm.trans hdeep)
  send_eq {r reply} _ h := by
    show reply.sent = _
    rw [Reply.sent, h]
    rfl
  send_long {r reply} h := by
    show reply.sent = _
    rw [Reply.sent, h]
    rfl
  abort_eq := rfl

/-- No price file is named, and there is none. -/
def unset : Price.Surroundings where
  priceVariable := none
  fileBytes _ := none
  depth := 900

/-- A JSON text posted to a path. -/
def posted (path : String) (body : List Char) : TextRequest where
  method := "POST"
  path := path
  body := some body

/-- A power of ten as it is written. -/
def powerOfTen (n : Nat) : List Char :=
  '1' :: List.replicate n '0'

/-- A bet of some amount on a winning number that is limited. -/
def winningBet (amount : List Char) : List Char :=
  "\x7b\"bet\": \x7b\"play_type\": \"fijo\", \"numbers\": \"34\", \"amount\": ".toList ++ amount ++
    "\x7d, \"result\": \"134 3459\", \"limited\": [\"34\"]\x7d".toList

/-- That bet posted where its prize is told. -/
def postedBet (amount : List Char) : TextRequest :=
  posted "/api/bets/evaluate" (winningBet amount)

/-- The bet is posted, if no text in it has half of a surrogate pair. -/
theorem posts_postedBet (amount : List Char) (h : (postedBet amount).isWhole = true) :
    (Framework.plain 900).Posts (postedBet amount) .evaluateBet where
  method := rfl
  path := rfl
  takes := rfl
  named := trivial
  whole := h

/-- The bet is answered at an amount of 2, and not at one whose prize is beyond cents. -/
theorem respond_isRegular_iff_winningBet :
    unset.priceVariable = none ∧
      (Framework.plain 900).Lawful ∧
      (Framework.plain 900).Posts (postedBet ['2']) .evaluateBet ∧
      (Framework.plain 900).Posts (postedBet (powerOfTen 30)) .evaluateBet ∧
      ¬View.FailsAt unset ((Framework.plain 900).payload (postedBet ['2'])) .evaluateBet ∧
      Response.IsRegular .evaluateBet ((Framework.plain 900).respond unset (postedBet ['2'])) ∧
      View.FailsAt unset ((Framework.plain 900).payload (postedBet (powerOfTen 30)))
        .evaluateBet ∧
      (Framework.plain 900).respond unset (postedBet (powerOfTen 30)) = ⟨500, none⟩ := by
  -- The same bet at the stake 2, which is paid, and at ten to the thirtieth, which is beyond
  -- cents.
  have hanswered : ((Framework.plain 900).respond unset (postedBet ['2'])).status = 200 := by
    decide +kernel
  have hfailed :
      ((Framework.plain 900).respond unset (postedBet (powerOfTen 30))).status = 500 := by
    decide +kernel
  have hone := posts_postedBet ['2'] (by decide +kernel)
  have hten := posts_postedBet (powerOfTen 30) (by decide +kernel)
  have hpaid := respond_isRegular_iff (s := unset) (plain_lawful 900) hone rfl
  have hunpaid := respond_isRegular_iff (s := unset) (plain_lawful 900) hten rfl
  have hno : ¬View.FailsAt unset ((Framework.plain 900).payload (postedBet ['2']))
      .evaluateBet := by
    intro hf
    have h500 := congrArg Response.status (hpaid.2.2 hf)
    rw [hanswered] at h500
    cases h500
  have hfails : View.FailsAt unset ((Framework.plain 900).payload (postedBet (powerOfTen 30)))
      .evaluateBet := by
    by_contra hf
    exact (hunpaid.1.2 hf).status_ne hfailed
  exact ⟨rfl, plain_lawful 900, hone, hten, hno, hpaid.1.2 hno, hfails, hunpaid.2.2 hfails⟩

/-- Texts that go unanswered where they are posted: limited numbers that are a number; an amount,
a price and a limit beyond the doubles; a total and a prize beyond cents. -/
def unanswered : List (String × List Char) := [
  ("/api/stats/day", "\x7b\"limited\": \x7b\"s1\": 5\x7d\x7d".toList),
  ("/api/stats/day",
    "\x7b\"plays\": [\x7b\"amount\": ".toList ++ powerOfTen 309 ++ "\x7d]\x7d".toList),
  ("/api/stats/day", "\x7b\"plays\": [\x7b\"total\": \"1e30\"\x7d]\x7d".toList),
  ("/api/bets/evaluate", "\x7b\"prices\": \x7b\"fijo\": \x7b\"limited\": ".toList ++
    powerOfTen 309 ++ "\x7d\x7d\x7d".toList),
  ("/api/bets/evaluate", winningBet (powerOfTen 30)),
  ("/api/limits/check",
    "\x7b\"limits\": [\x7b\"limit\": ".toList ++ powerOfTen 309 ++ "\x7d]\x7d".toList)]

/-- **None of them is answered.** -/
theorem map_status_respond_unanswered :
    (unanswered.map fun q => ((Framework.plain 900).respond unset (posted q.1 q.2)).status) =
      [500, 500, 500, 500, 500, 500] := by
  decide +kernel

end Service
end Lottery
