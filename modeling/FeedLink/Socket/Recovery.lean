import FeedLink.Socket.Handler

/-!
# Recovery from a lost connection

When a connection is lost and may be dialed again, the waiting calls are dropped and the reader
dials, with backoff, until a dial succeeds or the ceiling is reached. The ids of subscriptions meant
something on the lost connection only, so every subscription is made again on the new one, by the
request it was made with, under a fresh correlation id. These replays are waited for as a batch, and
only the batch of the latest recovery makes the handler connected again.
-/

namespace FeedLink.Socket

open Json

namespace Handler

/-- The reader stops. -/
def stop (h : Handler) (outcome : Except HandlerError Unit) : Handler :=
  { h with reader := .ended outcome }

/-- What the reader does when it is free: it reads from the connection that is attached, or stops
where there is none. -/
def readOn (h : Handler) : Handler :=
  match h.link with
  | some link => { h with reader := .reading link }
  | none => h.stop (.ok ())

/-- The connection was lost with an error. -/
def lose (s : Settings) (now : Duration) (h : Handler) (link : LinkId) (e : TransportError) :
    Handler × List Output :=
  if h.stopping then (h.stop (.ok ()), [])
  else if e.isClosed && s.reconnect then
    if h.state = .closed then (h.readOn, [])
    else
      ({ h with
          link := none
          state := .reconnecting
          correlator := h.correlator.clear.2
          reader := .dialing (.start s.redialSchedule now) },
        [.closed link, .dialing])
  else
    (({ h with link := none, state := .failed, correlator := h.correlator.clear.2 }).stop
      (.error (.transport e)), [])

/-- What making subscriptions again has come to: the handler, what was sent, and the replays that
wait. -/
structure Replaying where
  handler : Handler
  outputs : List Output
  replays : List Replay

/-- Makes one subscription again on a connection. One that is refused is given up, and the others
are not affected. -/
def replay (s : Settings) (now : Duration) (link : LinkId) (r : Replaying) (lost : Subscription)
    (failure : Option TransportError) : Replaying :=
  let h := r.handler
  let request := lost.request.withFreshId h.nextId
  let h := { h with nextId := h.nextId + 1 }
  match h.registry.reserveReplay lost request with
  | .error _ => { r with handler := h }
  | .ok registry =>
    let (pending, correlator) :=
      h.correlator.register request.id ("resubscribe to " ++ lost.feed.name)
    let h := { h with registry, correlator }
    let outputs := r.outputs ++ [.sent link request.text failure]
    match failure with
    | some _ => { r with handler := h.withdraw pending.key, outputs }
    | none =>
      ⟨h, outputs, r.replays ++ [⟨lost.feed, pending, now + s.timeouts.requestWait⟩]⟩

/-- Makes subscriptions again, one after the other. `failures` are the answers of the connection to
the requests; those past its end are accepted. -/
def replayAll (s : Settings) (now : Duration) (link : LinkId) :
    Replaying → List Subscription → List (Option TransportError) → Replaying
  | r, [], _ => r
  | r, lost :: rest, failures =>
    let r := replay s now link r lost (failures.head?.getD none)
    replayAll s now link r rest failures.tail

/-- Attaches a connection and makes every subscription again on it. A reservation that is no replay
is dropped. -/
def attach (s : Settings) (now : Duration) (h : Handler) (link : LinkId)
    (failures : List (Option TransportError)) : Handler × List Output :=
  let (subscriptions, registry) := h.registry.takeAll
  let h := { h with
    link := some link
    state := .resubscribing
    recovery := h.recovery + 1
    registry
    reader := .reading link }
  let r := replayAll s now link ⟨h, [], []⟩ subscriptions failures
  ({ r.handler with batches := r.handler.batches ++ [⟨h.recovery, r.replays⟩] }, r.outputs)

/-- A dial has ended while the reader waited for it. -/
def dialed (s : Settings) (now : Duration) (h : Handler) (backoff : Backoff)
    (result : Except TransportError LinkId) (failures : List (Option TransportError)) :
    Handler × List Output :=
  match result with
  | .ok link =>
    if h.state = .closed then (h.readOn, [.closed link]) else h.attach s now link failures
  | .error e =>
    match backoff.next now with
    | (some delay, backoff) => ({ h with reader := .pausing backoff (now + delay) }, [])
    | (none, backoff) =>
      (({ h with state := .failed }).stop (.error (.reconnectFailed (backoff.elapsed now) e)), [])

/-- Looks after one replay: the handler, and the replay if it still waits. An acknowledgement and
any other reply have already done their work; a replay whose connection was lost is carried over by
the next recovery; one that was refused or that nobody answered is given up. -/
def settleReplay (s : Settings) (now : Duration) (h : Handler) (r : Replay) :
    Handler × Option Replay :=
  match h.replyResult s now r.pending r.deadline with
  | none => (h, some r)
  | some (.ok _) => (h, none)
  | some (.error .noResponse) => (h, none)
  | some (.error _) => (h.withdraw r.pending.key, none)

/-- Looks after replays in turn, and keeps those that still wait. -/
def settleReplays (s : Settings) (now : Duration) : Handler → List Replay → Handler × List Replay
  | h, [] => (h, [])
  | h, r :: rest =>
    let (h, waiting) := h.settleReplay s now r
    let (h, others) := settleReplays s now h rest
    (h, waiting.toList ++ others)

/-- A batch none of whose replays waits any longer is over. If no later recovery has attached a
connection, the handler is connected again. -/
def settleBatch (s : Settings) (now : Duration) (h : Handler) (recovery : Nat) : Handler :=
  match h.batches.find? (·.recovery = recovery) with
  | none => h
  | some batch =>
    let (h, waiting) := settleReplays s now h batch.replays
    let others := h.batches.filter (·.recovery ≠ recovery)
    if waiting.isEmpty then
      { h with
        batches := others
        state :=
          if h.state = .resubscribing ∧ h.recovery = recovery then .connected else h.state }
    else { h with batches := others ++ [⟨recovery, waiting⟩] }

end Handler

end FeedLink.Socket
