import FeedLink.Request
import FeedLink.RemoteError

/-!
# Inbound frames

A frame is a push for one subscription, a reply to one request, or of no interest. Only a frame
that is not JSON is an error.

```text
reply        {"id":"7","result":...}  or  {"id":"7","error":{"code","message","data"}}
push         {"method":"subscribe","params":{"subscription":id,"result":payload}}
```
-/

namespace FeedLink

open Json

/-- What a server made of a request. -/
abbrev Outcome := Except RemoteError Value

/-- A frame that came in, classified. -/
inductive Inbound where
  /-- The reply to the request with this key. -/
  | reply (key : String) (outcome : Outcome)
  /-- A notification of a subscription. -/
  | push (subscription : SubscriptionId) (payload : Value)
  /-- Anything else, which nobody waits for. -/
  | other

namespace Inbound

/-- The push in the parameters of a frame; a payload that is missing reads as null. -/
def ofPushParams (params : Value) : Inbound :=
  match (params.field? "subscription").bind Value.asString? with
  | some id => .push ⟨id⟩ ((params.field? "result").getD .null)
  | none => .other

/-- The error that an `error` object stands for. One that does not decode is still an error. -/
def remoteError (error : Value) : RemoteError :=
  match RemoteError.record.codec.ofValue error with
  | .ok e => e
  | .error cause => ⟨0, "malformed error object: " ++ cause.message, none⟩

/-- The outcome that a reply carries: an `error` that is an object, else a `result`. -/
def outcome? (frame : Value) : Option Outcome :=
  match frame.field? "error" with
  | some (.obj fields) => some (.error (remoteError (.obj fields)))
  | _ => (frame.field? "result").map .ok

/-- Classifies a frame that is JSON. -/
def ofValue (frame : Value) : Inbound :=
  if frame.field? "method" = some (.str Request.subscribeMethod) then
    match frame.field? "params" with
    | some params => ofPushParams params
    | none => .other
  else
    match (frame.field? "id").bind RequestId.keyOf?, outcome? frame with
    | some key, some outcome => .reply key outcome
    | _, _ => .other

/-- Classifies the text of a frame. -/
def parse (text : String) : Except Fault Inbound := (Value.parse text).map ofValue

end Inbound

end FeedLink
