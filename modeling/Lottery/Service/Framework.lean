/-
# The framework of the service

The service is a set of views; what stands between them and whoever asks is the web
framework that they are registered with.  It is given from outside, so here it is a
parameter (`Framework`), and what is documented of it is a hypothesis
(`Framework.Lawful`):

| the framework | documented |
| --- | --- |
| finds the view of a request | by its method and path, as they were registered |
| reads the payload | JSON, integers of at most 4300 digits; null if the body is none |
| may fail to read it | only as lists and objects stand too deep inside one another |
| sends a reply | with its status, and its value as JSON |
| cannot send a value | with an integer of more than 4300 digits: the status is 500 |
| a view lets a fault escape | the status is 500, and the body no JSON |

What it does with a request for which there is no view is not said, nor how it knows
JSON from other bodies, nor what it reads where a text in the body is not made of
characters.  `Framework.plain` is a framework whose requests are texts, with all that
(`plain_lawful`).
-/

import Lottery.Json
import Lottery.Service.Reply

namespace Lottery
namespace Service

/-- A response: a status, and the value that the body writes if the body is JSON. -/
structure Response where
  status : Nat
  body : Option Value

/-- The response that a reply asks for. -/
def Reply.toResponse (reply : Reply) : Response :=
  ⟨reply.status, some reply.body⟩

/-- A web framework, by what it does with a request. -/
structure Framework where
  /-- A request for the host of the service, as it arrives over HTTP. -/
  Request : Type
  /-- The method of a request, in capitals. -/
  method : Request → String
  /-- The path of a request, percent signs resolved. -/
  path : Request → String
  /-- Are the texts in the body made of characters?  JSON may also escape half of a surrogate pair
  by itself, which is none. -/
  IsWhole : Request → Prop
  /-- The view that a request is given to, if it is given to any. -/
  view? : Request → Option View
  /-- The value of the body as JSON, null if the body is none (`request.get_json`). -/
  payload : Request → Except Fault Value
  /-- The response with a reply. -/
  send : Request → Reply → Response
  /-- The response where a fault escapes the view. -/
  abort : Request → Fault → Response
  /-- The response where there is no view. -/
  decline : Request → Response

namespace Framework

/-- The response to what a view gives back, or to the fault that escapes it. -/
def conclude (F : Framework) (r : F.Request) : Except Fault Reply → Response
  | .ok reply => F.send r reply
  | .error f => F.abort r f

/-- The response to a request. -/
def respond (F : Framework) (s : Price.Surroundings) (r : F.Request) : Response :=
  match F.view? r with
  | none => F.decline r
  | some v => F.conclude r (v.reply s (F.payload r))

/-- What is documented of a framework. -/
structure Lawful (F : Framework) : Prop where
  /-- A request goes to the view that is registered for its method and path. -/
  view?_eq {r : F.Request} {v : View} (hnamed : v.IsNamed) (hmethod : F.method r = v.method)
    (hpath : F.path r = v.path) : F.view? r = some v
  /-- No integer of more than 4300 digits is read. -/
  payload_short {r : F.Request} {v : Value} (hwhole : F.IsWhole r) (h : F.payload r = .ok v) :
    v.hasLongInteger = false
  /-- A body is not read only if it stands too deep inside itself: one that is no JSON is none. -/
  payload_error {r : F.Request} {f : Fault} (hwhole : F.IsWhole r) (h : F.payload r = .error f) :
    f = .tooDeep
  /-- What is posted is answered with the reply of the view. -/
  send_eq {r : F.Request} {reply : Reply} (hmethod : F.method r = "POST")
    (h : reply.body.hasLongInteger = false) : F.send r reply = reply.toResponse
  /-- An integer of more than 4300 digits is not written. -/
  send_long {r : F.Request} {reply : Reply} (h : reply.body.hasLongInteger = true) :
    F.send r reply = ⟨500, none⟩
  /-- A fault that escapes is an error of the server. -/
  abort_eq {r : F.Request} {f : Fault} : F.abort r f = ⟨500, none⟩

end Framework

/-! ### A framework of texts -/

/-- A request whose body, if there is one, is the text of some JSON. -/
structure TextRequest where
  method : String
  path : String
  body : Option (List Char)

namespace TextRequest

/-- The view of a request, by its method and path. -/
def view? (r : TextRequest) : Option View :=
  (View.ofPath? r.path).filter fun v => v.method == r.method

/-- Are the texts in the body of a request made of characters? -/
def isWhole (r : TextRequest) : Bool :=
  r.body.all Json.isWhole

/-- The value of the body of a request, read to a depth. -/
def payload (depth : Nat) (r : TextRequest) : Except Fault Value :=
  match r.body with
  | none => .ok .null
  | some cs =>
    match Json.read (.ofDepth depth) cs with
    | .ok v => .ok v
    -- A body that is no JSON counts as none; one that is too deep is a fault.
    | .error .malformed => .ok .null
    | .error .tooDeep => .error .tooDeep

end TextRequest

/-- A reply as it is sent: one with an integer that is too long to be written is not. -/
def Reply.sent (reply : Reply) : Response :=
  if reply.body.hasLongInteger then ⟨500, none⟩ else reply.toResponse

/-- The framework whose requests are texts, which are read to a depth. -/
def Framework.plain (depth : Nat) : Framework where
  Request := TextRequest
  method r := r.method
  path r := r.path
  IsWhole r := r.isWhole
  view? r := r.view?
  payload r := r.payload depth
  send _ reply := reply.sent
  abort _ _ := ⟨500, none⟩
  decline r := if (View.ofPath? r.path).isSome then ⟨405, none⟩ else ⟨404, none⟩

end Service
end Lottery
