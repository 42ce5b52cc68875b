import FeedLink.Socket.Recovery

/-!
# Steps of a WebSocket handler

Callers, the reader and the batches of replays take turns, and each turn is one step: a stretch of
work that nobody interrupts. Which of them is next, what the server sends, how the transport answers
a send or a dial and when a connection is lost are up to the world outside, and arrive as an `Event`
together with the time. An event that does not fit what the handler is doing changes nothing: a call
cannot begin under the name of one that has not returned, and a handler is dropped only once, when
no call on it is left.
-/

namespace FeedLink.Socket

open Json

/-- What happens next. -/
inductive Event where
  /-- A caller begins to subscribe; `failure` is the answer of the connection. -/
  | subscribe (call : CallId) (feed : Feed) (params : Value) (callback : Callback)
      (failure : Option TransportError)
  | request (call : CallId) (method : String) (params : Value) (failure : Option TransportError)
  | unsubscribe (call : CallId) (feed : Feed) (failure : Option TransportError)
  | close (call : CallId) (failure : Option TransportError)
  /-- A caller begins to wait for the end of the reader. -/
  | join (call : CallId)
  /-- A caller drops a call. -/
  | abandon (call : CallId)
  /-- A call that waits is given a turn. -/
  | resume (call : CallId) (failure : Option TransportError)
  /-- The reader gets a frame from a connection. -/
  | received (link : LinkId) (text : String)
  /-- The reader gets an error from a connection. -/
  | lost (link : LinkId) (e : TransportError)
  /-- The reader notices that it was told to stop. -/
  | noticed
  /-- A dial has ended; `failures` are the answers of the new connection to what is sent on it. -/
  | dialed (result : Except TransportError LinkId) (failures : List (Option TransportError))
  /-- The reader wakes from the pause before the next dial. -/
  | woken
  /-- A batch of replays is given a turn. -/
  | settle (recovery : Nat)
  /-- The handler itself is dropped. -/
  | release

namespace Handler

/-- One step. -/
def step (s : Settings) (now : Duration) (h : Handler) : Event → Handler × List Output
  | .subscribe call feed params callback failure =>
    if h.admits call then h.subscribe s now call feed params callback failure else (h, [])
  | .request call method params failure =>
    if h.admits call then h.request s now call method params failure else (h, [])
  | .unsubscribe call feed failure =>
    if h.admits call then h.unsubscribe s now call feed failure else (h, [])
  | .close call failure => if h.admits call then h.close s now call failure else (h, [])
  | .join call => if h.admits call then h.join call else (h, [])
  | .abandon call => (h.abandon call, [])
  | .resume call failure => h.resume s now call failure
  | .received link text =>
    match h.reader with
    | .reading l =>
      if l = link then
        let (h, outputs) := h.handleText s text
        (h.readOn, outputs)
      else (h, [])
    | _ => (h, [])
  | .lost link e =>
    match h.reader with
    | .reading l => if l = link then h.lose s now link e else (h, [])
    | _ => (h, [])
  | .noticed =>
    match h.reader with
    | .ended _ => (h, [])
    | _ => if h.stopping then (h.stop (.ok ()), []) else (h, [])
  | .dialed result failures =>
    match h.reader with
    | .dialing backoff => h.dialed s now backoff result failures
    | _ => (h, [])
  | .woken =>
    match h.reader with
    | .pausing backoff wake =>
      if wake ≤ now then ({ h with reader := .dialing backoff }, [.dialing]) else (h, [])
    | _ => (h, [])
  | .settle recovery => (h.settleBatch s now recovery, [])
  | .release => if !h.released && h.calls.isEmpty then h.release else (h, [])

/-- Steps in turn, each with its time: the handler after all of them, and what they did. -/
def run (s : Settings) : Handler → List (Duration × Event) → Handler × List Output
  | h, [] => (h, [])
  | h, (now, event) :: rest =>
    let (h, outputs) := h.step s now event
    let (h, more) := run s h rest
    (h, outputs ++ more)

/-- The handlers that steps lead to from the first connection. -/
inductive Reachable (s : Settings) : Handler → Prop where
  | initial (link : LinkId) : Reachable s (Handler.initial link)
  | step {h : Handler} (now : Duration) (event : Event) :
    Reachable s h → Reachable s (h.step s now event).1

end Handler

end FeedLink.Socket
