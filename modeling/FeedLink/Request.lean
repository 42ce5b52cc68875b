import FeedLink.Feed

/-!
# Outbound requests

A request is an envelope with a method, its parameters and an id under which the server answers.
Correlation ids come from a counter and are written as strings; a reply is matched by
`RequestId.key`, so a server may answer with the string or with the number.

```text
subscribe    {"jsonrpc":"2.0","id":"7","method":"subscribe","params":[feed, feedParams]}
request      {"jsonrpc":"2.0","id":"8","method":m,"params":p}
unsubscribe  {"jsonrpc":"2.0","id":"9","method":"unsubscribe","params":[subscriptionId]}
```
-/

namespace FeedLink

open Json

/-- The id of a request. -/
inductive RequestId where
  | number (n : UInt64)
  | string (s : String)
  | null
deriving DecidableEq, Repr, Inhabited

namespace RequestId

/-- The text under which a reply to the request is looked up. -/
def key : RequestId → String
  | .number n => toString n.toNat
  | .string s => s
  | .null => "null"

/-- The id made of the `n`th count of a counter. -/
def fresh (n : Nat) : RequestId := .string (toString n)

/-- The key in the `id` field of a reply, if it holds one. -/
def keyOf? : Value → Option String
  | .str s => some s
  | .num n => some (String.ofList n.render)
  | _ => none

/-- The id that a value stands for: a number without a sign, a string, or null. -/
def ofValue? : Value → Option RequestId
  | .num (.int i _) => if 0 ≤ i then some (.number (UInt64.ofNat i.toNat)) else none
  | .str s => some (.string s)
  | .null => some .null
  | _ => none

/-- An id as a value. -/
def toValue : RequestId → Value
  | .number n => .ofUInt64 n
  | .string s => .str s
  | .null => .null

/-- Reading an id first reads a whole value and then looks for an alternative that fits. -/
def codec : Codec RequestId where
  read d := do
    let v ← Document.orBroken d.value
    match ofValue? v with
    | some id => .ok id
    | none => .error (.noVariant "RpcId")
  write := toValue

end RequestId

/-- A request envelope. -/
structure Request where
  version : String
  id : RequestId
  method : String
  params : Option Value
deriving DecidableEq, Inhabited

namespace Request

/-- The version of the protocol that every request names. -/
def protocolVersion : String := "2.0"

/-- The method of a subscribe request, and of every push notification. -/
def subscribeMethod : String := "subscribe"

def unsubscribeMethod : String := "unsubscribe"

/-- A request under the `n`th correlation id. -/
def new (n : Nat) (method : String) (params : Value) : Request :=
  ⟨protocolVersion, .fresh n, method, some params⟩

/-- Asks for the notifications of a feed. -/
def subscribe (n : Nat) (feed : Feed) (params : Value) : Request :=
  new n subscribeMethod (.arr [.str feed.name, params])

/-- Gives up one subscription. -/
def unsubscribe (n : Nat) (id : SubscriptionId) : Request :=
  new n unsubscribeMethod (.arr [.str id.text])

/-- Gives up every subscription of the connection; it has no parameters at all. -/
def unsubscribeAll (n : Nat) : Request :=
  ⟨protocolVersion, .fresh n, unsubscribeMethod, none⟩

/-- The same request under the `n`th correlation id. -/
def withFreshId (r : Request) (n : Nat) : Request := { r with id := .fresh n }

def record : Record Request where
  name := "JsonRpcRequest"
  blank := ⟨"", .null, "", none⟩
  fields := [
    .required "jsonrpc" .string (·.version) fun a r => { r with version := a },
    .required "id" RequestId.codec (·.id) fun a r => { r with id := a },
    .required "method" .string (·.method) fun a r => { r with method := a },
    (Field.sparse "params" .value (·.params) fun a r => { r with params := a }).keptInArrays]

/-- The text of a request as it is sent. -/
def text (r : Request) : String := record.codec.toText r

end Request

end FeedLink
