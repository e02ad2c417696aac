/-
# Faults

What can go wrong with a value, by cause, and what is said about it.

| cause | arises where |
| --- | --- |
| `beyondDoubles` | an integer is to be a double and rounds to an infinity |
| `beyondCents` | an amount of money has more than 28 digits in cents |
| `notNumeric` | null, a list or an object is to be a double |
| `notNumeral` | a text that writes no number is to be a double |
| `integerTooLong` | an integer of more than 4300 digits is to be text |
| `tooDeep` | a JSON text stands too deep inside itself |
| `notAKey` | a list or an object is to be looked up |
| `notOrdered` | keys of different kinds are to be put in order |
| `noLength` | a number is to be read as the digits of a parle |
| `notIterable`, `noEntries` | a value is to be gone through that is no collection |
| `rowWidth` | a reported result has not three parts, or a limit not four |
| `noField` | plays are to be grouped by a field that they do not have |
| `unknownGrouping` | plays are to be grouped by a word that names no field |
| `prices` | a price table breaks a rule |
-/

import Lottery.Text.Quoted

namespace Lottery

/-- The kinds of values. -/
inductive Kind where
  | null
  | bool
  | int
  | real
  | text
  | list
  | object
  deriving DecidableEq

namespace Kind

/-- The word for a kind in messages. -/
def name : Kind → String
  | .null => "NoneType"
  | .bool => "bool"
  | .int => "int"
  | .real => "float"
  | .text => "str"
  | .list => "list"
  | .object => "dict"

end Kind

/-- Why a price table is refused. -/
inductive PriceError where
  /-- The file of that path is missing, or holds no JSON text. -/
  | unreadable (path : String)
  | notATable
  | unknownPlayType (name : String)
  | ratesNotAnObject (playType : String)
  | missingRate (side playType : String)
  | invalidRate (side playType shown : String)
  deriving DecidableEq

namespace PriceError

/-- The wording of an error. -/
def message : PriceError → String
  | .unreadable path => "Could not read price table from " ++ path
  | .notATable => "Price table must be an object keyed by play type"
  | .unknownPlayType name => "Unsupported play type in price table: " ++ name
  | .ratesNotAnObject playType => "Rates for " ++ playType ++ " must be an object"
  | .missingRate side playType => "Missing '" ++ side ++ "' multiplier for " ++ playType
  | .invalidRate side playType shown =>
    "Invalid '" ++ side ++ "' multiplier for " ++ playType ++ ": " ++ shown

end PriceError

/-- Why an operation gives no answer. -/
inductive Fault where
  | beyondDoubles
  | beyondCents
  | notNumeric (kind : Kind)
  | notNumeral (text : String)
  | integerTooLong
  | tooDeep
  | notAKey (kind : Kind)
  | notOrdered
  | noLength (kind : Kind)
  | notIterable (kind : Kind)
  | noEntries (kind : Kind)
  | rowWidth (expected found : Nat)
  | noField (name : String)
  | unknownGrouping (word : String)
  | prices (error : PriceError)
  deriving DecidableEq

namespace Fault

/-- The wording of a fault. -/
def message : Fault → String
  | .beyondDoubles => "int too large to convert to float"
  | .beyondCents => "amount has too many digits"
  | .notNumeric kind =>
    "float() argument must be a string or a real number, not '" ++ kind.name ++ "'"
  | .notNumeral text => "could not convert string to float: " ++ Text.quoted text
  | .integerTooLong =>
    "Exceeds the limit (4300 digits) for integer string conversion; " ++
      "use sys.set_int_max_str_digits() to increase the limit"
  | .tooDeep => "maximum recursion depth exceeded"
  | .notAKey kind => "unhashable type: '" ++ kind.name ++ "'"
  | .notOrdered => "keys of different kinds have no order"
  | .noLength kind => "object of type '" ++ kind.name ++ "' has no len()"
  | .notIterable kind => "'" ++ kind.name ++ "' object is not iterable"
  | .noEntries kind => "'" ++ kind.name ++ "' object has no attribute 'items'"
  | .rowWidth n found =>
    let expected := "(expected " ++ String.ofList (Nat.toDigits 10 n)
    if found < n then
      "not enough values to unpack " ++ expected ++ ", got " ++
        String.ofList (Nat.toDigits 10 found) ++ ")"
    else "too many values to unpack " ++ expected ++ ")"
  | .noField name => "plays have no field " ++ name
  | .unknownGrouping word => "Unsupported grouping: " ++ word
  | .prices error => error.message

end Fault

/-! ### Computations that may fail -/

/-- A computation of two steps succeeds exactly if both of them do. -/
theorem bind_eq_ok {α β ε : Type} {x : Except ε α} {f : α → Except ε β} {b : β} :
    (x >>= f) = .ok b ↔ ∃ a, x = .ok a ∧ f a = .ok b := by
  cases x with
  | error e => simp [bind, Except.bind]
  | ok a => simp [bind, Except.bind]

/-- It fails with the error of its first step, or with that of the second. -/
theorem bind_eq_error {α β ε : Type} {x : Except ε α} {f : α → Except ε β} {e : ε} :
    (x >>= f) = .error e ↔ x = .error e ∨ ∃ a, x = .ok a ∧ f a = .error e := by
  cases x with
  | error e' => simp [bind, Except.bind]
  | ok a => simp [bind, Except.bind]

/-- After a first step that succeeds, the second decides. -/
theorem bind_of_eq_ok {α β ε : Type} {x : Except ε α} {f : α → Except ε β} {a : α}
    (h : x = .ok a) : (x >>= f) = f a := by
  rw [h]
  rfl

/-- Two steps that always succeed make a computation that does. -/
theorem exists_bind_eq_ok {α β ε : Type} {x : Except ε α} {f : α → Except ε β}
    (hx : ∃ a, x = .ok a) (hf : ∀ a, ∃ b, f a = .ok b) : ∃ b, (x >>= f) = .ok b := by
  obtain ⟨a, rfl⟩ := hx
  exact hf a

/-- Results can be compared if their values can, even where errors cannot. -/
instance instDecidableEqOk {α ε : Type} [DecidableEq α] (x : Except ε α) (a : α) :
    Decidable (x = .ok a) :=
  match x with
  | .ok b => decidable_of_iff (b = a) ⟨congrArg Except.ok, Except.ok.inj⟩
  | .error _ => isFalse nofun

/-- Errors can be compared where results cannot. -/
instance instDecidableEqError {α ε : Type} [DecidableEq ε] (x : Except ε α) (e : ε) :
    Decidable (x = .error e) :=
  match x with
  | .error e' => decidable_of_iff (e' = e) ⟨congrArg Except.error, Except.error.inj⟩
  | .ok _ => isFalse nofun

/-- Whether a computation succeeds with a result of some property can be decided if the property
can. -/
instance instDecidableExistsOk {α ε : Type} (x : Except ε α) (P : α → Prop) [DecidablePred P] :
    Decidable (∃ a, x = .ok a ∧ P a) :=
  match x with
  | .ok a => decidable_of_iff (P a)
      ⟨fun h => ⟨a, rfl, h⟩, fun ⟨_, h, hp⟩ => Except.ok.inj h ▸ hp⟩
  | .error _ => isFalse fun ⟨_, h, _⟩ => nomatch h

end Lottery
