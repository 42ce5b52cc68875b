import FeedLink.Call
import FeedLink.Grpc.Receiver
import FeedLink.Table

/-!
# The state of a gRPC handler

Each feed is held by a slot: first by the subscribe that opens its stream, then by the receiver of
that stream. Both go by the token that the subscribe drew, and cancelling the token ends either. No
call holds anything that another call waits for, so a stream that is slow to open delays nobody
else.

Events are what happens next, as the world outside decides it, and arrive together with the time. An
event that does not fit what the handler is doing changes nothing.
-/

namespace FeedLink.Grpc

open Json

/-- Names a subscribe and the receiver that it makes. -/
structure Token where
  number : Nat
deriving DecidableEq, Repr, Inhabited

/-- What holds a feed. -/
inductive Slot where
  /-- A subscribe that opens a stream. -/
  | opening (token : Token)
  /-- A receiver, or what is left of one that has ended. -/
  | running (token : Token)
deriving DecidableEq, Repr

/-- A call that has not returned. -/
inductive Call where
  /-- A subscribe that waits for its stream. -/
  | subscribing (feed : Feed) (params : Value) (callback : Callback) (token : Token)
      (deadline : Duration)
  /-- A request that waits for its reply. -/
  | requesting (method : String) (deadline : Duration)
  /-- An unsubscribe that waits for a receiver to end. -/
  | unsubscribing (token : Token) (deadline : Duration)
  /-- A close that waits for all receivers to end. -/
  | closing (tokens : List Token)

/-- A handler between two steps. -/
structure Handler where
  closed : Bool
  slots : Table Feed Slot
  /-- Is every token cancelled? -/
  stopping : Bool
  /-- The tokens that were cancelled one by one. -/
  cancelled : List Token
  receivers : Table Token Receiver
  /-- How many tokens were drawn. -/
  drawn : Nat
  calls : Table CallId Call

/-- Who opens a stream. -/
inductive Opener where
  | call (call : CallId)
  | receiver (token : Token)
deriving DecidableEq, Repr

/-- What a step does to the world outside. -/
inductive Output where
  /-- A stream begins to be opened. -/
  | opening (opener : Opener) (feed : Feed) (params : Value)
  /-- A procedure begins to be called. -/
  | calling (call : CallId) (method : String) (params : Value)
  | notified (callback : Callback) (delivery : Delivery)
  | returned (call : CallId) (result : CallResult)

/-- What happens next. -/
inductive Event where
  | subscribe (call : CallId) (feed : Feed) (params : Value) (callback : Callback)
  | request (call : CallId) (method : String) (params : Value)
  | unsubscribe (call : CallId) (feed : Feed)
  | close (call : CallId)
  /-- A caller drops a call. -/
  | abandon (call : CallId)
  /-- A stream that a subscribe waits for was opened, or it could not be. -/
  | opened (call : CallId) (result : Except Status StreamId)
  /-- A request was answered. -/
  | answered (call : CallId) (result : Except Status Value)
  /-- A call that waits is given a turn. -/
  | resume (call : CallId)
  /-- A receiver gets to know something. -/
  | signal (token : Token) (signal : Signal)
  /-- The handler itself is dropped. -/
  | release

namespace Handler

def initial : Handler where
  closed := false
  slots := []
  stopping := false
  cancelled := []
  receivers := []
  drawn := 0
  calls := []

instance : Inhabited Handler := ⟨initial⟩

/-- Is a token cancelled? -/
def isCancelled (h : Handler) (token : Token) : Bool := h.stopping || h.cancelled.contains token

/-- Has the receiver with a token ended? -/
def hasEnded (h : Handler) (token : Token) : Bool :=
  match Table.get? token h.receivers with
  | some r => r.hasEnded
  | none => true

/-- Does a slot still hold its feed? A receiver that has ended does not. -/
def isLive (h : Handler) : Slot → Bool
  | .opening _ => true
  | .running token => !h.hasEnded token

/-- Is a receiver running for this slot? -/
def isReceiving (h : Handler) : Slot → Bool
  | .opening _ => false
  | .running token => !h.hasEnded token

/-- How many feeds have a receiver that has not ended. -/
def activeCount (h : Handler) : Nat := h.slots.countP fun e => h.isReceiving e.2

/-- Ends a call with a result. -/
def finish (h : Handler) (call : CallId) (result : CallResult) : Handler × List Output :=
  ({ h with calls := Table.erase call h.calls }, [.returned call result])

/-- What a subscribe is told whose token was cancelled. -/
def cancelReason (h : Handler) (feed : Feed) : HandlerError :=
  if h.closed then .notConnected else .notSubscribed feed

/-- A subscribe ends without a stream: it frees its feed, unless its token was cancelled, for who
cancels a token has taken the slot. -/
def freeOpening (h : Handler) (feed : Feed) (token : Token) : Handler :=
  if h.isCancelled token then h
  else
    match Table.get? feed h.slots with
    | some (.opening _) => { h with slots := Table.erase feed h.slots }
    | _ => h

/-- Begins to subscribe. -/
def subscribe (s : Settings) (now : Duration) (h : Handler) (call : CallId) (feed : Feed)
    (params : Value) (callback : Callback) : Handler × List Output :=
  if h.closed then (h, [.returned call (.error .notConnected)])
  else if (Table.get? feed h.slots).any h.isLive then
    (h, [.returned call (.error (.alreadySubscribed feed))])
  else
    let token : Token := ⟨h.drawn⟩
    let waiting := Call.subscribing feed params callback token (now + s.timeouts.requestWait)
    ({ h with
        drawn := h.drawn + 1
        slots := Table.set feed (.opening token) h.slots
        calls := Table.set call waiting h.calls },
      [.opening (.call call) feed params])

/-- A stream that a subscribe waits for was opened, or it could not be. -/
def opened (h : Handler) (call : CallId) (result : Except Status StreamId) :
    Handler × List Output :=
  match Table.get? call h.calls with
  | some (.subscribing feed params callback token _) =>
    match result with
    | .error status => (h.freeOpening feed token).finish call (.error status.toError)
    | .ok stream =>
      if h.isCancelled token then h.finish call (.error (h.cancelReason feed))
      else
        let receiver : Receiver := ⟨feed, params, callback, .receiving stream⟩
        { h with
          slots := Table.set feed (.running token) h.slots
          receivers := Table.set token receiver h.receivers }.finish call (.ok none)
  | _ => (h, [])

/-- Begins a request. -/
def request (s : Settings) (now : Duration) (h : Handler) (call : CallId) (method : String)
    (params : Value) : Handler × List Output :=
  if h.closed then (h, [.returned call (.error .notConnected)])
  else
    let waiting := Call.requesting method (now + s.timeouts.requestWait)
    ({ h with calls := Table.set call waiting h.calls }, [.calling call method params])

/-- A request was answered. -/
def answered (h : Handler) (call : CallId) (result : Except Status Value) :
    Handler × List Output :=
  match Table.get? call h.calls with
  | some (.requesting _ _) =>
    h.finish call (match result with
      | .ok v => .ok (some v)
      | .error status => .error status.toError)
  | _ => (h, [])

/-- Begins to unsubscribe: whatever holds the feed is cancelled, and a receiver is waited for. -/
def unsubscribe (s : Settings) (now : Duration) (h : Handler) (call : CallId) (feed : Feed) :
    Handler × List Output :=
  let without (token : Token) : Handler :=
    { h with slots := Table.erase feed h.slots, cancelled := token :: h.cancelled }
  match Table.get? feed h.slots with
  | none => (h, [.returned call (.ok none)])
  | some (.opening token) => (without token, [.returned call (.ok none)])
  | some (.running token) =>
    let h := without token
    if h.hasEnded token then (h, [.returned call (.ok none)])
    else
      let waiting := Call.unsubscribing token (now + s.timeouts.grpcUnsubscribeWait)
      ({ h with calls := Table.set call waiting h.calls }, [])

/-- The receivers that hold feeds. -/
def runningTokens (h : Handler) : List Token :=
  h.slots.filterMap fun
    | (_, .running token) => some token
    | (_, .opening _) => none

/-- Closes the handler: every token is cancelled, and the receivers are waited for. Closing again
does nothing. -/
def close (h : Handler) (call : CallId) : Handler × List Output :=
  if h.closed then (h, [.returned call (.ok none)])
  else
    let tokens := h.runningTokens
    let h := { h with closed := true, slots := [], stopping := true }
    if tokens.all h.hasEnded then (h, [.returned call (.ok none)])
    else ({ h with calls := Table.set call (.closing tokens) h.calls }, [])

/-- Drops a call that has not returned. -/
def abandon (h : Handler) (call : CallId) : Handler :=
  let rest := { h with calls := Table.erase call h.calls }
  match Table.get? call h.calls with
  | some (.subscribing feed _ _ token _) => rest.freeOpening feed token
  | _ => rest

/-- Lets a call go on that waits for something, if it has come. -/
def resume (s : Settings) (now : Duration) (h : Handler) (call : CallId) :
    Handler × List Output :=
  match Table.get? call h.calls with
  | none => (h, [])
  | some (.subscribing feed _ _ token deadline) =>
    if h.isCancelled token then h.finish call (.error (h.cancelReason feed))
    else if deadline ≤ now then
      (h.freeOpening feed token).finish call
        (.error (.timeout ("subscribe to " ++ feed.name) s.timeouts.requestWait))
    else (h, [])
  | some (.requesting method deadline) =>
    if h.stopping then h.finish call (.error .notConnected)
    else if deadline ≤ now then
      h.finish call (.error (.timeout method s.timeouts.requestWait))
    else (h, [])
  | some (.unsubscribing token deadline) =>
    if h.hasEnded token || deadline ≤ now then h.finish call (.ok none) else (h, [])
  | some (.closing tokens) =>
    if tokens.all h.hasEnded then h.finish call (.ok none) else (h, [])

/-- A receiver gets to know something. It learns that it is cancelled only when it is. -/
def notify (s : Settings) (now : Duration) (h : Handler) (token : Token) (signal : Signal) :
    Handler × List Output :=
  match Table.get? token h.receivers with
  | none => (h, [])
  | some receiver =>
    match signal, h.isCancelled token with
    | .cancelled, false => (h, [])
    | signal, _ =>
      let (receiver, acts) := receiver.step s now signal
      ({ h with receivers := Table.set token receiver h.receivers },
        acts.map fun
          | .delivered d => .notified receiver.callback d
          | .opening => .opening (.receiver token) receiver.feed receiver.params)

/-- One step. -/
def step (s : Settings) (now : Duration) (h : Handler) : Event → Handler × List Output
  | .subscribe call feed params callback => h.subscribe s now call feed params callback
  | .request call method params => h.request s now call method params
  | .unsubscribe call feed => h.unsubscribe s now call feed
  | .close call => h.close call
  | .abandon call => (h.abandon call, [])
  | .opened call result => h.opened call result
  | .answered call result => h.answered call result
  | .resume call => h.resume s now call
  | .signal token signal => h.notify s now token signal
  | .release => ({ h with stopping := true }, [])

/-- Steps in turn, each with its time: the handler after all of them, and what they did. -/
def run (s : Settings) : Handler → List (Duration × Event) → Handler × List Output
  | h, [] => (h, [])
  | h, (now, event) :: rest =>
    let (h, outputs) := h.step s now event
    let (h, more) := run s h rest
    (h, outputs ++ more)

/-- The handlers that steps lead to. -/
inductive Reachable (s : Settings) : Handler → Prop where
  | initial : Reachable s Handler.initial
  | step {h : Handler} (now : Duration) (event : Event) :
    Reachable s h → Reachable s (h.step s now event).1

end Handler

end FeedLink.Grpc
