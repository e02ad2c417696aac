/-
# What is read of a request

A request hands over a payload: the JSON value of its body, null if it has none,
or the fault of reading it (`request.get_json`).  A payload that is null has no
fields, that of an object has those of the object, and any other is refused
(`_json_body`).  `Refusal` keeps apart what is answered with an explanation and
what is not: which faults are explained depends on the place where they arise.

| faults | explained |
| --- | --- |
| of a price table (`ofPrices`) | that a table breaks a rule |
| of the fields of a slip to be checked (`ofInput`) | all but what is beyond a bound |
-/

import Lottery.Value.Written

namespace Lottery
namespace Service

/-- Why a request gets no regular answer. -/
inductive Refusal where
  /-- The request breaks a rule of the service. -/
  | explained (message : String)
  /-- Answering it failed. -/
  | failed (fault : Fault)
  deriving DecidableEq

namespace Refusal

/-- A fault for which only an error in a price table is explained. -/
def ofPrices : Fault → Refusal
  | .prices e => .explained e.message
  | f => .failed f

/-- A fault that is explained unless something is beyond a bound. -/
def ofInput : Fault → Refusal
  | .beyondDoubles => .failed .beyondDoubles
  | .beyondCents => .failed .beyondCents
  | .tooDeep => .failed .tooDeep
  | f => .explained f.message

end Refusal

/-- Refuses with a refusal made of a fault. -/
def orRefuse {α : Type} (refusal : Fault → Refusal) : Except Fault α → Except Refusal α
  | .ok x => .ok x
  | .error f => .error (refusal f)

/-- The fields of a payload. -/
def fieldsOf (payload : Except Fault Value) : Except Refusal (List (String × Value)) := do
  match ← orRefuse .failed payload with
  | .null => .ok []
  | .object fields => .ok fields
  | _ => .error (.explained "Request body must be a JSON object.")

/-! ### Values that go into a request -/

/-- The elements of a field, none if it does not count as present. -/
def elementsOf (fields : List (String × Value)) (name : String) : Except Fault (List Value) :=
  ((Value.get fields name).orElse (.list [])).elements

/-- A field as text, a missing one as the empty text. -/
def textOf (fields : List (String × Value)) (name : String) : Except Fault String :=
  ((fields.lookup name).getD (.text "")).written

/-- A field as text, one that does not count as present as the empty text. -/
def presentTextOf (fields : List (String × Value)) (name : String) : Except Fault String :=
  ((Value.get fields name).orElse (.text "")).written

end Service
end Lottery
