/-
# Values as text

`shown` writes a value as it stands inside a message or a list; `written` does
the same, except that a text is written without its quotes.

| value | shown |
| --- | --- |
| null, true, false | `None`, `True`, `False` |
| integer | its digits, at most 4300 |
| double | its shortest decimal, `inf`, `-inf`, `nan` |
| text | between quotes |
| list | its elements between brackets, `, ` between two |
| object | its fields between braces, `: ` after a name, `, ` between two |

An integer of more digits cannot be written, and nothing else stands in the
way: a value without one is always shown.
-/

import Lottery.Value.Number

namespace Lottery
namespace Value

/-- An integer as text. -/
def shownInt (n : Int) : Except Fault String :=
  let ds := Text.ofNat n.natAbs
  if Text.isLong n.natAbs then .error .integerTooLong
  else .ok (String.ofList (if n < 0 then '-' :: ds else ds))

mutual

/-- A value as it stands inside a message or a list. -/
def shown : Value → Except Fault String
  | .null => .ok "None"
  | .bool true => .ok "True"
  | .bool false => .ok "False"
  | .int n => shownInt n
  | .real x => .ok x.written
  | .text s => .ok (Text.quoted s)
  | .list xs => do
    let parts ← shownList xs
    .ok ("[" ++ String.intercalate ", " parts ++ "]")
  | .object fields => do
    let parts ← shownFields fields
    .ok ("\x7b" ++ String.intercalate ", " parts ++ "\x7d")

/-- The elements of a list, shown. -/
def shownList : List Value → Except Fault (List String)
  | [] => .ok []
  | v :: vs => do
    let s ← shown v
    let rest ← shownList vs
    .ok (s :: rest)

/-- The fields of an object, shown. -/
def shownFields : List (String × Value) → Except Fault (List String)
  | [] => .ok []
  | (name, v) :: fields => do
    let s ← shown v
    let rest ← shownFields fields
    .ok ((Text.quoted name ++ ": " ++ s) :: rest)

end

/-- A value as text of its own. -/
def written : Value → Except Fault String
  | .text s => .ok s
  | v => v.shown

mutual

/-- Does a value hold a long integer? -/
def hasLongInteger : Value → Bool
  | .int n => Text.isLong n.natAbs
  | .list vs => anyLongInteger vs
  | .object fields => anyLongField fields
  | _ => false

/-- Does one of some values hold a long integer? -/
def anyLongInteger : List Value → Bool
  | [] => false
  | v :: vs => hasLongInteger v || anyLongInteger vs

/-- Does one of some fields hold a long integer? -/
def anyLongField : List (String × Value) → Bool
  | [] => false
  | (_, v) :: fields => hasLongInteger v || anyLongField fields

end

/-- A text is written as it is. -/
@[simp] theorem written_text (s : String) : written (.text s) = .ok s :=
  rfl

mutual

/-- Nothing but a long integer keeps a value from being shown. -/
theorem exists_shown {v : Value} (h : v.hasLongInteger = false) : ∃ s, v.shown = .ok s := by
  match v with
  | .null | .bool true | .bool false | .real _ | .text _ => exact ⟨_, rfl⟩
  | .int n =>
    rw [hasLongInteger] at h
    simp [shown, shownInt, h]
  | .list vs =>
    rw [hasLongInteger] at h
    obtain ⟨parts, hp⟩ := exists_shownList h
    exact ⟨_, by rw [shown, hp]; rfl⟩
  | .object fields =>
    rw [hasLongInteger] at h
    obtain ⟨parts, hp⟩ := exists_shownFields h
    exact ⟨_, by rw [shown, hp]; rfl⟩

/-- The same for the elements of a list. -/
theorem exists_shownList {vs : List Value} (h : anyLongInteger vs = false) :
    ∃ parts, shownList vs = .ok parts := by
  match vs with
  | [] => exact ⟨[], rfl⟩
  | v :: vs =>
    rw [anyLongInteger, Bool.or_eq_false_iff] at h
    obtain ⟨s, hs⟩ := exists_shown h.1
    obtain ⟨rest, hr⟩ := exists_shownList h.2
    exact ⟨s :: rest, by rw [shownList, hs, hr]; rfl⟩

/-- The same for the fields of an object. -/
theorem exists_shownFields {fields : List (String × Value)} (h : anyLongField fields = false) :
    ∃ parts, shownFields fields = .ok parts := by
  match fields with
  | [] => exact ⟨[], rfl⟩
  | (name, v) :: fields =>
    rw [anyLongField, Bool.or_eq_false_iff] at h
    obtain ⟨s, hs⟩ := exists_shown h.1
    obtain ⟨rest, hr⟩ := exists_shownFields h.2
    exact ⟨_ :: rest, by rw [shownFields, hs, hr]; rfl⟩

end

end Value
end Lottery
