/-
# Prices whatever the price file holds

| variable and file | in use | warning |
| --- | --- | --- |
| unset or blank | the reference | |
| a file that is missing, no text or no JSON | the reference | the path |
| a value that is no table | the reference | its first fault |
| a value whose first fault is an integer beyond the doubles | nothing | |
| a table | the table | |

The row without prices is the only one of its kind, files that stand too deep
inside themselves aside (`exists_inUse_isDue_iff`).  All other faults of a value
can be named in a warning, since what is read holds no long integer
(`Json.hasLongInteger_read`).

The variable is read by `price_table_from_env`, the file by `load_price_table`.
-/

import Lottery.Price.File
import Lottery.Proofs.Json
import Lottery.Proofs.Price.Table

namespace Lottery
namespace Price

namespace Surroundings

/-- The path that the variable names, blanks around it aside, if it names one. -/
def path? (s : Surroundings) : Option String :=
  let path := String.ofList (Text.trim (s.priceVariable.getD "").toList)
  if path.isEmpty then none else some path

/-- The text of the price file, if it is there and is text. -/
def fileText? (s : Surroundings) : Option (List Char) := do
  let path ← s.path?
  let bytes ← s.fileBytes path
  Text.utf8? (Text.byteList bytes)

/-- The price file holds a value as JSON text. -/
def Holds (s : Surroundings) (v : Value) : Prop :=
  ∃ cs, s.fileText? = some cs ∧ Json.read (.ofDepth s.depth) cs = .ok v

/-- The price file stands too deep inside itself. -/
def TooDeep (s : Surroundings) : Prop :=
  ∃ cs, s.fileText? = some cs ∧ Json.read (.ofDepth s.depth) cs = .error .tooDeep

/-- The file holds one value at most. -/
theorem Holds.eq {s : Surroundings} {u v : Value} (hu : s.Holds u) (hv : s.Holds v) : u = v := by
  obtain ⟨cs, htext, hread⟩ := hu
  obtain ⟨cs', htext', hread'⟩ := hv
  obtain rfl : cs' = cs := Option.some.inj (htext'.symm.trans htext)
  exact Except.ok.inj (hread.symm.trans hread')

/-- A file that holds a value does not stand too deep. -/
theorem Holds.not_tooDeep {s : Surroundings} {v : Value} (h : s.Holds v) : ¬s.TooDeep := by
  obtain ⟨cs, htext, hread⟩ := h
  rintro ⟨cs', htext', hdeep⟩
  obtain rfl : cs' = cs := Option.some.inj (htext'.symm.trans htext)
  rw [hread] at hdeep
  cases hdeep

end Surroundings

namespace Table

variable {s : Surroundings}

/-- The table that the price file gives, or the reference where it gives none. -/
def IsDue (s : Surroundings) (t : Table) : Prop :=
  (∃ v, s.Holds v ∧ build v = .ok t) ∨
    (¬∃ v t', s.Holds v ∧ build v = .ok t') ∧ t = reference

/-- Where no file is named, the reference prices are in use, and there is no warning. -/
theorem inUse_of_path?_eq_none (h : s.path? = none) : inUse s = .ok (reference, []) := by
  unfold Surroundings.path? at h
  unfold inUse
  dsimp only at h ⊢
  split at h
  · next he => exact if_pos he
  · cases h

/-- Where one is named, its prices are, unless the table has an error: then a warning says so. Other
faults are not caught. -/
theorem inUse_of_path?_eq_some {path : String} (h : s.path? = some path) : inUse s =
    match load s.depth path (s.fileBytes path) with
    | .ok t => .ok (t, [])
    | .error (.prices e) => .ok (reference, ["Falling back to reference prices: " ++ e.message])
    | .error f => .error f := by
  unfold Surroundings.path? at h
  unfold inUse
  dsimp only at h ⊢
  split at h
  · cases h
  · next he =>
    obtain rfl := Option.some.inj h
    exact if_neg he

/-- What loading a file comes to: its text, the value that the text writes, the table of the value.
-/
theorem load_eq {path : String} (h : s.path? = some path) : load s.depth path (s.fileBytes path) =
    match s.fileText? with
    | none => .error (.prices (.unreadable path))
    | some cs =>
      match Json.read (.ofDepth s.depth) cs with
      | .ok v => build v
      | .error .malformed => .error (.prices (.unreadable path))
      | .error .tooDeep => .error .tooDeep := by
  have htext : s.fileText? = (s.fileBytes path).bind fun b => Text.utf8? (Text.byteList b) := by
    rw [Surroundings.fileText?, h]
    rfl
  rw [htext]
  rfl

/-- Where the file holds nothing that is a table, the reference is due. -/
theorem isDue_reference (h : ∀ v, s.Holds v → ∀ t, build v ≠ .ok t) : IsDue s reference := by
  refine .inr ⟨?_, rfl⟩
  rintro ⟨v, t, hv, ht⟩
  exact h v hv t ht

/-- A file that holds no value, for whatever reason but its depth, gives way to the reference. -/
theorem exists_inUse_of_holds_nothing (hdeep : ¬s.TooDeep) (h : ∀ v, ¬s.Holds v) :
    ∃ warnings, inUse s = .ok (reference, warnings) := by
  -- No file is named, it cannot be read, or it holds no JSON: each time the reference is in use.
  cases hpath : s.path? with
  | none => exact ⟨_, inUse_of_path?_eq_none hpath⟩
  | some path =>
    rw [inUse_of_path?_eq_some hpath, load_eq hpath]
    cases htext : s.fileText? with
    | none => exact ⟨_, rfl⟩
    | some cs =>
      dsimp only
      cases hread : Json.read (.ofDepth s.depth) cs with
      | ok v => exact absurd ⟨cs, htext, hread⟩ (h v)
      | error e =>
        cases e with
        | malformed => exact ⟨_, rfl⟩
        | tooDeep => exact absurd ⟨cs, htext, hread⟩ hdeep

/-- What is in use where the file holds a value. -/
theorem inUse_of_holds {v : Value} (h : s.Holds v) : inUse s =
    match build v with
    | .ok t => .ok (t, [])
    | .error (.prices e) => .ok (reference, ["Falling back to reference prices: " ++ e.message])
    | .error f => .error f := by
  obtain ⟨cs, htext, hread⟩ := h
  -- Without a file there would be no text to hold the value.
  cases hpath : s.path? with
  | none =>
    rw [Surroundings.fileText?, hpath] at htext
    cases htext
  | some path =>
    rw [inUse_of_path?_eq_some hpath, load_eq hpath, htext]
    dsimp only
    rw [hread]

/-- **A price file never keeps the service from having prices,** unless it stands too deep inside
itself or the first fault of its table is an integer beyond the doubles: the table in use is the one
that the file gives, or else the reference. -/
theorem exists_inUse_isDue_iff (hdeep : ¬s.TooDeep) :
    (∃ t warnings, inUse s = .ok (t, warnings) ∧ IsDue s t) ↔
      ¬∃ v, s.Holds v ∧ OversizedFirst v := by
  constructor
  · rintro ⟨t, warnings, hin, _⟩ ⟨v, hv, hover⟩
    rw [inUse_of_holds hv, build_of_oversizedFirst hover] at hin
    cases hin
  · intro hnone
    by_cases hholds : ∃ v, s.Holds v
    · obtain ⟨v, hv⟩ := hholds
      have hin := inUse_of_holds hv
      -- A table that breaks a rule falls back; the one fault that does not is an oversized
      -- multiplier.
      cases hb : build v with
      | ok t =>
        rw [hb] at hin
        exact ⟨t, [], hin, .inl ⟨v, hv, hb⟩⟩
      | error f =>
        have hshort : v.hasLongInteger = false := by
          obtain ⟨cs, _, hread⟩ := hv
          exact Json.hasLongInteger_read hread
        rcases build_eq_error hshort hb with ⟨p, rfl⟩ | ⟨rfl, hover⟩
        · rw [hb] at hin
          refine ⟨reference, _, hin, isDue_reference fun u hu t ht => ?_⟩
          rw [hu.eq hv, hb] at ht
          cases ht
        · exact absurd ⟨v, hv, hover⟩ hnone
    · have hnothing : ∀ v, ¬s.Holds v := fun v hv => hholds ⟨v, hv⟩
      obtain ⟨warnings, hin⟩ := exists_inUse_of_holds_nothing hdeep hnothing
      exact ⟨reference, warnings, hin, isDue_reference fun v hv => absurd hv (hnothing v)⟩

/-- A service whose variable names a file with some text, blanks around its path. -/
def servedBy (content : List Char) : Surroundings where
  priceVariable := some " prices.json\n"
  fileBytes path := if path = "prices.json" then some (String.ofList content).toUTF8 else none
  depth := 990

/-- A table with one entry, its limited multiplier as it is written and the regular one 80. -/
def fijoPrices (limited : List Char) : List Char :=
  "\x7b\"fijo\": \x7b\"limited\": ".toList ++ limited ++ ", \"regular\": 80\x7d\x7d".toList

/-- A negative multiplier is refused with a warning, and the reference is in use. -/
theorem exists_inUse_isDue_iff_negative :
    ¬(servedBy (fijoPrices ['-', '1'])).TooDeep ∧
    inUse (servedBy (fijoPrices ['-', '1'])) = .ok (reference,
      ["Falling back to reference prices: Invalid 'limited' multiplier for fijo: -1"]) ∧
    ((∃ t warnings, inUse (servedBy (fijoPrices ['-', '1'])) = .ok (t, warnings) ∧
        IsDue (servedBy (fijoPrices ['-', '1'])) t) ↔
      ¬∃ v, (servedBy (fijoPrices ['-', '1'])).Holds v ∧ OversizedFirst v) := by
  have htext : (servedBy (fijoPrices ['-', '1'])).fileText? = some (fijoPrices ['-', '1']) := by
    decide +kernel
  -- A negative multiplier is a fault with an explanation, so there is a table all the same.
  have hread : ∃ v, Json.read (.ofDepth 990) (fijoPrices ['-', '1']) = .ok v ∧
      build v = .error (.prices (.invalidRate "limited" "fijo" "-1")) := by
    decide +kernel
  obtain ⟨v, hv, hb⟩ := hread
  have hholds : (servedBy (fijoPrices ['-', '1'])).Holds v := ⟨_, htext, hv⟩
  refine ⟨hholds.not_tooDeep, ?_, exists_inUse_isDue_iff hholds.not_tooDeep⟩
  rw [inUse_of_holds hholds, hb]
  rfl

/-- `10 ^ 309` as it is written. -/
def beyondDigits : List Char :=
  '1' :: List.replicate 309 '0'

/-- **An integer beyond the doubles takes the prices away:** no table is in use, not even the
reference. -/
theorem inUse_eq_beyondDoubles :
    ¬(servedBy (fijoPrices beyondDigits)).TooDeep ∧
    inUse (servedBy (fijoPrices beyondDigits)) = .error .beyondDoubles := by
  have htext : (servedBy (fijoPrices beyondDigits)).fileText? = some (fijoPrices beyondDigits) := by
    decide +kernel
  have hread : ∃ v, Json.read (.ofDepth 990) (fijoPrices beyondDigits) = .ok v ∧
      build v = .error .beyondDoubles := by
    decide +kernel
  obtain ⟨v, hv, hb⟩ := hread
  have hholds : (servedBy (fijoPrices beyondDigits)).Holds v := ⟨_, htext, hv⟩
  refine ⟨hholds.not_tooDeep, ?_⟩
  rw [inUse_of_holds hholds, hb]

end Table
end Price
end Lottery
