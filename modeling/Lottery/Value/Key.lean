/-
# Values as keys

A value that is no collection has a key, by which it is looked up and grouped.
Numbers have one key if they are numerically equal, whatever their kind: `1`,
`1.0` and true are the same key.  Values are equal if they have one key, so a
list or an object is equal to nothing.

Texts are put in order by their code points, numbers by size and lists by their
first elements that are not alike; values of different kinds have no order.
-/

import Lottery.Text.Order
import Lottery.Value.Basic

namespace Lottery
namespace Value

/-- The place of a number in the order of numbers: its exact number of units,
the infinities beyond all doubles and integers apart. -/
inductive Place where
  | below
  | finite (units : Int)
  | above
  | nowhere
  deriving DecidableEq

/-- The place of a numeric value. -/
def place? : Value → Option Place
  | .bool b => some (.finite (if b then 1 <<< 1074 else 0))
  | .int n => some (.finite (n * ((1 <<< 1074 : Nat) : Int)))
  | .real .nan => some .nowhere
  | .real (.infinite true) => some .below
  | .real (.infinite false) => some .above
  | .real (.finite negative units _) => some (.finite (Binary64.signed negative units))
  | _ => none

/-- What a value is looked up by. -/
inductive Key where
  | null
  | text (s : String)
  | number (place : Place)
  deriving DecidableEq

/-- The key of a value, none of a list or an object. -/
def key? : Value → Option Key
  | .null => some .null
  | .text s => some (.text s)
  | v => v.place?.map .number

/-- Have two values one key? -/
def same (v w : Value) : Bool :=
  match v.key?, w.key? with
  | some k, some l => k == l
  | _, _ => false

/-- Values are compared as keys are. -/
instance : BEq Value := ⟨same⟩

/-- A value, provided it can be looked up. -/
def asKey (v : Value) : Except Fault Value :=
  if v.key?.isSome then .ok v else .error (.notAKey v.kind)

/-- The elements of a value, each of them once, provided all can be looked up. -/
def keys (v : Value) : Except Fault (List Value) := do
  let vs ← v.elements
  let vs ← vs.mapM asKey
  .ok vs.eraseDups

/-- Does the first place come strictly before the second? -/
def Place.lt : Place → Place → Bool
  | .nowhere, _ => false
  | _, .nowhere => false
  | .finite a, .finite b => decide (a < b)
  | .below, .below => false
  | .below, _ => true
  | .finite _, .above => true
  | _, _ => false

mutual

/-- Have two values one key, or are they collections with equal contents?  The
fields of objects have no order. -/
def alike : Value → Value → Bool
  | .list vs, .list ws => alikeLists vs ws
  | .object fields, .object others =>
    fields.length == others.length && alikeFields fields others
  | v, w => same v w

/-- Are two lists alike, element by element? -/
def alikeLists : List Value → List Value → Bool
  | [], [] => true
  | v :: vs, w :: ws => alike v w && alikeLists vs ws
  | _, _ => false

/-- Has each of some fields one of its name and like it among others? -/
def alikeFields : List (String × Value) → List (String × Value) → Bool
  | [], _ => true
  | (name, v) :: fields, others =>
    (match others.lookup name with
      | some w => alike v w
      | none => false) && alikeFields fields others

end

mutual

/-- Does the first value come strictly before the second? -/
def before : Value → Value → Except Fault Bool
  | .text s, .text t => .ok (Text.before s t)
  | .list vs, .list ws => beforeLists vs ws
  | v, w =>
    match v.place?, w.place? with
    | some p, some q => .ok (p.lt q)
    | _, _ => .error .notOrdered

/-- Does the first list come strictly before the second?  The first place where
they are not alike decides; a list comes before its proper extensions. -/
def beforeLists : List Value → List Value → Except Fault Bool
  | _, [] => .ok false
  | [], _ :: _ => .ok true
  | v :: vs, w :: ws => if alike v w then beforeLists vs ws else before v w

end

/-- Equality is having one key. -/
theorem beq_iff {v w : Value} : (v == w) = true ↔ ∃ k, v.key? = some k ∧ w.key? = some k := by
  show same v w = true ↔ _
  unfold same
  split
  · next k l hv hw =>
    rw [beq_iff_eq, hv, hw]
    constructor
    · rintro rfl
      exact ⟨k, rfl, rfl⟩
    · rintro ⟨m, hk, hl⟩
      rw [Option.some.inj hk, Option.some.inj hl]
  · next h =>
    constructor
    · intro hf
      cases hf
    · rintro ⟨k, hv, hw⟩
      exact absurd hw (h k k hv)

/-- The comparison is symmetric and transitive. It is not reflexive: a list or an object has no
key and so is not equal to itself. -/
instance : PartialEquivBEq Value where
  symm h := by
    obtain ⟨k, hv, hw⟩ := beq_iff.1 h
    exact beq_iff.2 ⟨k, hw, hv⟩
  trans h h' := by
    obtain ⟨k, hu, hv⟩ := beq_iff.1 h
    obtain ⟨l, hv', hw⟩ := beq_iff.1 h'
    rw [hv] at hv'
    exact beq_iff.2 ⟨k, hu, hw.trans hv'.symm⟩

/-- Texts are equal keys if they are the same text. -/
@[simp] theorem text_beq_text (s t : String) : (Value.text s == Value.text t) = (s == t) := by
  rw [Bool.eq_iff_iff, beq_iff, beq_iff_eq]
  constructor
  · rintro ⟨k, hs, ht⟩
    exact Key.text.inj (Option.some.inj (hs.trans ht.symm))
  · rintro rfl
    exact ⟨.text s, rfl, rfl⟩

/-- Only a text is equal to a text. -/
theorem beq_text_iff {v : Value} {s : String} : (v == .text s) = true ↔ v = .text s := by
  constructor
  · intro h
    obtain ⟨k, hv, hs⟩ := beq_iff.1 h
    obtain rfl := Option.some.inj hs
    cases v with
    | text t => rw [Key.text.inj (Option.some.inj hv)]
    | null | bool b | int n | list vs | object fields => cases hv
    | real x =>
      obtain ⟨p, _, hp⟩ := Option.map_eq_some_iff.1 hv
      cases hp
  · rintro rfl
    rw [text_beq_text, beq_iff_eq]

/-- A value that can be looked up is its own key, and only such a value is equal to itself. -/
theorem asKey_eq_ok_iff {v w : Value} : v.asKey = .ok w ↔ v = w ∧ (v == v) = true := by
  rw [beq_iff, asKey]
  cases h : v.key? <;> simp

/-- A text can be looked up. -/
@[simp] theorem asKey_text (s : String) : asKey (.text s) = .ok (.text s) :=
  rfl

end Value
end Lottery
