import FeedLink.Call
import FeedLink.Retry
import FeedLink.Config
import FeedLink.Notification
import FeedLink.Socket.Correlator
import FeedLink.Socket.Registry

/-!
# The state of a WebSocket handler

One connection, one reader of it, and any number of callers share the correlator and the registry.
A caller sends its request, and waits for a reply or for its time to run out; the reader handles
frames, and dials again when the connection is lost.

`Handler` holds everything between two steps: the shared tables, what the reader is doing, the calls
that wait, and the batches of replays that wait after a recovery. What a step does to the world
outside is a list of `Output`s.
-/

namespace FeedLink.Socket

open Json

/-- Names a connection. -/
structure LinkId where
  number : Nat
deriving DecidableEq, Repr, Inhabited

/-- What stays the same as long as a handler lives. -/
structure Settings where
  kind : EndpointKind
  endpoint : Endpoint
  decoders : Decoders
  timeouts : Timeouts
  reconnect : Bool

namespace Settings

/-- The settings that a configuration asks for, unless it cannot be used for a WebSocket. -/
def ofConfig (c : Config) (version : String) (decoders : Decoders) :
    Except HandlerError Settings := do
  c.validate.mapError .config
  let (kind, _) ← c.endpoint.mapError .config
  if kind = .gatewayGrpc then
    .error (.unsupported "a gRPC endpoint on the WebSocket handler")
  else
    let endpoint ← (c.socketEndpoint version).mapError .config
    return ⟨kind, endpoint, decoders, c.timeouts, c.reconnect⟩

/-- The backoff of redialing. -/
def redialSchedule (s : Settings) : Schedule :=
  (BackoffConfig.bounded s.timeouts.reconnectInitial s.timeouts.reconnectCeiling).schedule

/-- The backoff of unsubscribing. -/
def unsubscribeSchedule (s : Settings) : Schedule :=
  (BackoffConfig.bounded s.timeouts.unsubscribeInitial s.timeouts.unsubscribeCeiling).schedule

end Settings

/-- What the reader is doing. -/
inductive Reader where
  /-- It waits for a frame on a connection. -/
  | reading (link : LinkId)
  /-- It waits for a dial. -/
  | dialing (backoff : Backoff)
  /-- It waits until some time before it dials again. -/
  | pausing (backoff : Backoff) (wake : Duration)
  /-- It has stopped, and its outcome is what `wait` returns. -/
  | ended (outcome : Except HandlerError Unit)

/-- A call that has not returned. -/
inductive Call where
  | subscribing (feed : Feed) (pending : PendingReply) (deadline : Duration)
  | requesting (pending : PendingReply) (deadline : Duration)
  /-- An unsubscribe that sleeps until its next attempt. -/
  | unsubscribing (feed : Feed) (backoff : Backoff) (wake : Duration)
  /-- A close that waits for the reader to stop. -/
  | closing (deadline : Duration)
  /-- A call that waits for the outcome of the reader. -/
  | joining

/-- A replay that waits for its acknowledgement. -/
structure Replay where
  feed : Feed
  pending : PendingReply
  deadline : Duration

/-- The replays of one recovery that still wait. -/
structure Batch where
  recovery : Nat
  replays : List Replay

/-- A handler between two steps. -/
structure Handler where
  /-- The connection that is attached. -/
  link : Option LinkId
  correlator : Correlator
  registry : Registry
  state : ConnectionState
  /-- How many recoveries have attached a connection. -/
  recovery : Nat
  /-- The count of the next correlation id. Every handler counts for itself, and without an end. A
  process may let all its handlers draw from one counter of 64 bits instead. Then the ids of a
  handler ascend with gaps between them, and the first `2 ^ 64` are as distinct as they are here; no
  handler compares its ids with those of another. -/
  nextId : Nat
  /-- Was the reader told to stop? -/
  stopping : Bool
  /-- Was the handler itself dropped? -/
  released : Bool
  reader : Reader
  /-- Did a call take the outcome of the reader? -/
  joined : Bool
  calls : Table CallId Call
  batches : List Batch

/-- What a step does to the world outside. -/
inductive Output where
  /-- A text was offered to a connection, which refused it if there is a `failure`. -/
  | sent (link : LinkId) (text : String) (failure : Option TransportError)
  /-- A connection is closed from this side. -/
  | closed (link : LinkId)
  /-- A dial begins. -/
  | dialing
  | notified (callback : Callback) (delivery : Delivery)
  | returned (call : CallId) (result : CallResult)

namespace Handler

/-- A handler whose first connection has just been dialed. -/
def initial (link : LinkId) : Handler where
  link := some link
  correlator := .empty
  registry := .empty
  state := .connected
  recovery := 0
  nextId := 1
  stopping := false
  released := false
  reader := .reading link
  joined := false
  calls := []
  batches := []

/-- May a caller begin a call under this name? The handler is still there, and no call that has not
returned has the name. -/
def admits (h : Handler) (call : CallId) : Bool := !h.released && !Table.has call h.calls

/-- Withdraws what a call left in the tables under its key: the entry that waits for a reply, and
the reservation made for it. -/
def withdraw (h : Handler) (key : String) : Handler :=
  { h with correlator := (h.correlator.evict key).2, registry := (h.registry.release key).2 }

/-- Ends a call with a result. -/
def finish (h : Handler) (call : CallId) (result : CallResult) : Handler × List Output :=
  ({ h with calls := Table.erase call h.calls }, [.returned call result])

/-! ## Frames -/

/-- Settles a reply. An acknowledgement makes its reservation active in the same step, so the next
frame can already be a push for it; any other reply takes the reservation back. -/
def handleReply (h : Handler) (key : String) (outcome : Outcome) : Handler :=
  let registry :=
    if h.registry.isReserved key then
      match outcome with
      | .ok (.str id) => (h.registry.confirm key ⟨id⟩).2
      | _ => (h.registry.release key).2
    else h.registry
  { h with registry, correlator := (h.correlator.dispatch key outcome).2 }

/-- Handles a frame. A push goes to the callback of its subscription; what nobody waits for is
dropped. -/
def handleText (s : Settings) (h : Handler) (text : String) : Handler × List Output :=
  match Inbound.parse text with
  | .ok (.reply key outcome) => (h.handleReply key outcome, [])
  | .ok (.push id payload) =>
    match h.registry.route id with
    | some (feed, callback) => (h, [.notified callback (s.decoders.decode feed payload)])
    | none => (h, [])
  | .ok .other | .error _ => (h, [])

/-! ## Calls -/

/-- Begins to subscribe. The feed is reserved before the request is sent, and `failure` is the
answer of the connection to the request. -/
def subscribe (s : Settings) (now : Duration) (h : Handler) (call : CallId) (feed : Feed)
    (params : Value) (callback : Callback) (failure : Option TransportError) :
    Handler × List Output :=
  let request := Request.subscribe h.nextId feed params
  let h := { h with nextId := h.nextId + 1 }
  match h.link with
  | none => (h, [.returned call (.error .notConnected)])
  | some link =>
    match h.registry.reserve feed request callback with
    | .error e => (h, [.returned call (.error e)])
    | .ok registry =>
      let (pending, correlator) := h.correlator.register request.id ("subscribe to " ++ feed.name)
      let h := { h with registry, correlator }
      let sent := Output.sent link request.text failure
      match failure with
      | some e => (h.withdraw pending.key, [sent, .returned call (.error (.transport e))])
      | none =>
        let waiting := Call.subscribing feed pending (now + s.timeouts.requestWait)
        ({ h with calls := Table.set call waiting h.calls }, [sent])

/-- Begins a request. -/
def request (s : Settings) (now : Duration) (h : Handler) (call : CallId) (method : String)
    (params : Value) (failure : Option TransportError) : Handler × List Output :=
  let request := Request.new h.nextId method params
  let h := { h with nextId := h.nextId + 1 }
  match h.link with
  | none => (h, [.returned call (.error .notConnected)])
  | some link =>
    let (pending, correlator) := h.correlator.register request.id method
    let h := { h with correlator }
    let sent := Output.sent link request.text failure
    match failure with
    | some e =>
      ({ h with correlator := (h.correlator.evict pending.key).2 },
        [sent, .returned call (.error (.transport e))])
    | none =>
      let waiting := Call.requesting pending (now + s.timeouts.requestWait)
      ({ h with calls := Table.set call waiting h.calls }, [sent])

/-- One attempt to unsubscribe: what it leaves, what it sends, and how it ends. A feed that is not
held is given up already. One that waits for its acknowledgement, and a connection that may come
back, are worth another attempt. -/
def unsubscribeOnce (h : Handler) (feed : Feed) (failure : Option TransportError) :
    Handler × List Output × Attempt HandlerError Unit :=
  match h.registry.holding feed, h.link with
  | .none, _ => (h, [], .success ())
  | .pending, _ => (h, [], .transient (.notSubscribed feed))
  | .active _, none =>
    (h, [], if h.state.isTerminal then .permanent .notConnected else .transient .notConnected)
  | .active id, some link =>
    let request := Request.unsubscribe h.nextId id
    let h := { h with nextId := h.nextId + 1 }
    let sent := Output.sent link request.text failure
    match failure with
    | some e => (h, [sent], .transient (.transport e))
    | none => ({ h with registry := (h.registry.unregister feed).2 }, [sent], .success ())

/-- An attempt to unsubscribe, and what follows from it: the call returns, or it sleeps until its
next attempt. -/
def unsubscribeAttempt (now : Duration) (h : Handler) (call : CallId) (feed : Feed)
    (backoff : Backoff) (failure : Option TransportError) : Handler × List Output :=
  let (h, sent, attempt) := h.unsubscribeOnce feed failure
  let finish (result : CallResult) : Handler × List Output :=
    let (h, returned) := h.finish call result
    (h, sent ++ returned)
  match attempt with
  | .success () => finish (.ok none)
  | .permanent e => finish (.error e)
  | .transient e =>
    match backoff.next now with
    | (none, _) => finish (.error e)
    | (some delay, backoff) =>
      let waiting := Call.unsubscribing feed backoff (now + delay)
      ({ h with calls := Table.set call waiting h.calls }, sent)

/-- Begins to unsubscribe. -/
def unsubscribe (s : Settings) (now : Duration) (h : Handler) (call : CallId) (feed : Feed)
    (failure : Option TransportError) : Handler × List Output :=
  h.unsubscribeAttempt now call feed (.start s.unsubscribeSchedule now) failure

/-- Closes the handler: the tables are emptied, the reader is told to stop, and a connection is told
that no subscription is wanted any more before it is closed. Closing again does nothing. -/
def close (s : Settings) (now : Duration) (h : Handler) (call : CallId)
    (failure : Option TransportError) : Handler × List Output :=
  if h.state = .closed then (h, [.returned call (.ok none)])
  else
    let link := h.link
    let h := { h with
      state := .closed
      correlator := h.correlator.clear.2
      registry := h.registry.takeAll.2
      link := none
      stopping := true }
    let (h, outputs) := match link with
      | none => (h, [])
      | some link =>
        ({ h with nextId := h.nextId + 1 },
          [Output.sent link (Request.unsubscribeAll h.nextId).text failure, .closed link])
    match h.reader with
    | .ended _ => (h, outputs ++ [.returned call (.ok none)])
    | _ =>
      ({ h with calls := Table.set call (.closing (now + s.timeouts.closeWait)) h.calls }, outputs)

/-- What a caller is told that joins the reader. -/
def joinResult (outcome : Except HandlerError Unit) : CallResult := outcome.map fun _ => none

/-- Waits for the reader to stop. Only the first such call learns how it stopped. -/
def join (h : Handler) (call : CallId) : Handler × List Output :=
  if h.joined then (h, [.returned call (.ok none)])
  else
    let h := { h with joined := true }
    match h.reader with
    | .ended outcome => (h, [.returned call (joinResult outcome)])
    | _ => ({ h with calls := Table.set call .joining h.calls }, [])

/-- Drops a call that has not returned. -/
def abandon (h : Handler) (call : CallId) : Handler :=
  let rest := { h with calls := Table.erase call h.calls }
  match Table.get? call h.calls with
  | some (.subscribing _ pending _) | some (.requesting pending _) => rest.withdraw pending.key
  | _ => rest

/-- The result of waiting for a reply, unless there is more to wait for. -/
def replyResult (s : Settings) (now : Duration) (h : Handler) (pending : PendingReply)
    (deadline : Duration) : Option (Except HandlerError Value) :=
  match h.correlator.settlement? pending.ticket with
  | some settlement => some settlement.result
  | none => if deadline ≤ now then some (pending.timedOut s.timeouts.requestWait) else none

/-- What a subscribe returns for a reply: the server acknowledges with a string. -/
def subscribeResult (feed : Feed) : Except HandlerError Value → CallResult
  | .ok (.str _) => .ok none
  | .ok other =>
    .error (.unexpectedReply ("subscribe to " ++ feed.name ++ " returned " ++ other.render))
  | .error e => .error e

/-- Lets a call go on that waits for something, if it has come. -/
def resume (s : Settings) (now : Duration) (h : Handler) (call : CallId)
    (failure : Option TransportError) : Handler × List Output :=
  match Table.get? call h.calls with
  | none => (h, [])
  | some (.subscribing feed pending deadline) =>
    match h.replyResult s now pending deadline with
    | none => (h, [])
    | some result => (h.withdraw pending.key).finish call (subscribeResult feed result)
  | some (.requesting pending deadline) =>
    match h.replyResult s now pending deadline with
    | none => (h, [])
    | some result => (h.withdraw pending.key).finish call (result.map some)
  | some (.unsubscribing feed backoff wake) =>
    if wake ≤ now then h.unsubscribeAttempt now call feed backoff failure else (h, [])
  | some (.closing deadline) =>
    match h.reader with
    | .ended _ => h.finish call (.ok none)
    | _ => if deadline ≤ now then h.finish call (.ok none) else (h, [])
  | some .joining =>
    match h.reader with
    | .ended outcome => h.finish call (joinResult outcome)
    | _ => (h, [])

/-- The handler is dropped: its reader is told to stop and its connection is closed. -/
def release (h : Handler) : Handler × List Output :=
  ({ h with stopping := true, released := true, link := none },
    match h.link with
    | none => []
    | some link => [.closed link])

/-- The id of the active subscription to a feed. -/
def subscriptionId? (h : Handler) (feed : Feed) : Option SubscriptionId :=
  match h.registry.holding feed with
  | .active id => some id
  | _ => none

end Handler

end FeedLink.Socket
