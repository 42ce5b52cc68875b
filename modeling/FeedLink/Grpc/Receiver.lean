import FeedLink.Config
import FeedLink.Grpc.Status
import FeedLink.Notification
import FeedLink.Retry

/-!
# The receiver of a feed

Each feed that a gateway streams has a receiver of its own. It takes frames from its stream and
gives their notifications to the callback in order; when the stream fails and may be opened again,
it opens another with the parameters of the first one, with backoff. An error that ends a receiver
is the last thing its callback gets; the end of a stream, and a cancelled receiver, end silently.
-/

namespace FeedLink.Grpc

open Json

/-- Names a stream. -/
structure StreamId where
  number : Nat
deriving DecidableEq, Repr, Inhabited

/-- What stays the same as long as a handler lives. -/
structure Settings where
  decoders : Decoders
  timeouts : Timeouts
  reconnect : Bool

namespace Settings

/-- The settings that a configuration asks for. -/
def ofConfig (c : Config) (decoders : Decoders) : Settings := ⟨decoders, c.timeouts, c.reconnect⟩

/-- The backoff of opening a stream again. -/
def reopenSchedule (s : Settings) : Schedule :=
  (BackoffConfig.bounded s.timeouts.reconnectInitial s.timeouts.reconnectCeiling).schedule

end Settings

/-- What a receiver is doing. A stream that failed is held until another one takes its place. -/
inductive Stage where
  | receiving (stream : StreamId)
  /-- It waits for a stream to be opened. -/
  | reopening (lost : StreamId) (backoff : Backoff)
  /-- It waits until some time before it tries again to open a stream. -/
  | pausing (lost : StreamId) (backoff : Backoff) (wake : Duration)
  | ended

/-- A feed, how it was asked for, and what is being done about it. -/
structure Receiver where
  feed : Feed
  params : Value
  callback : Callback
  stage : Stage

/-- What a receiver does to the world outside. -/
inductive Act where
  /-- The callback is given something. -/
  | delivered (d : Delivery)
  /-- A stream begins to be opened. -/
  | opening

/-- What a receiver gets to know. -/
inductive Signal where
  | frame (stream : StreamId) (payloads : List Value)
  /-- A stream ended. -/
  | finished (stream : StreamId)
  | failed (stream : StreamId) (status : Status)
  /-- A stream was opened, or it could not be. -/
  | opened (result : Except Status StreamId)
  /-- The pause before the next attempt is over. -/
  | woken
  /-- The receiver is cancelled. -/
  | cancelled

namespace Receiver

/-- Has the receiver ended? -/
def hasEnded (r : Receiver) : Bool :=
  match r.stage with
  | .ended => true
  | _ => false

/-- The stream that a receiver holds. -/
def stream? (r : Receiver) : Option StreamId :=
  match r.stage with
  | .receiving stream | .reopening stream _ | .pausing stream _ _ => some stream
  | .ended => none

/-- The receiver is done. -/
def stop (r : Receiver) : Receiver := { r with stage := .ended }

/-- The receiver is done, and its callback is told why. -/
def giveUp (r : Receiver) (status : Status) : Receiver × List Act :=
  (r.stop, [.delivered (.error status.toError)])

/-- The stream that is received from has failed. -/
def lose (s : Settings) (now : Duration) (r : Receiver) (stream : StreamId) (status : Status) :
    Receiver × List Act :=
  if status.isCleanEnd then (r.stop, [])
  else if !s.reconnect || status.isPermanent then r.giveUp status
  else ({ r with stage := .reopening stream (.start s.reopenSchedule now) }, [.opening])

/-- Opening a stream again has failed. -/
def retry (now : Duration) (r : Receiver) (lost : StreamId) (backoff : Backoff) (status : Status) :
    Receiver × List Act :=
  if status.isPermanent then r.giveUp status
  else
    match backoff.next now with
    | (none, _) => r.giveUp status
    | (some delay, backoff) => ({ r with stage := .pausing lost backoff (now + delay) }, [])

/-- One step. A signal that does not fit what the receiver is doing changes nothing. -/
def step (s : Settings) (now : Duration) (r : Receiver) : Signal → Receiver × List Act
  | .frame stream payloads =>
    match r.stage with
    | .receiving held =>
      if held = stream then
        (r, payloads.map fun p => .delivered (s.decoders.decode r.feed p))
      else (r, [])
    | _ => (r, [])
  | .finished stream =>
    match r.stage with
    | .receiving held => if held = stream then (r.stop, []) else (r, [])
    | _ => (r, [])
  | .failed stream status =>
    match r.stage with
    | .receiving held => if held = stream then r.lose s now stream status else (r, [])
    | _ => (r, [])
  | .opened result =>
    match r.stage with
    | .reopening lost backoff =>
      match result with
      | .ok stream => ({ r with stage := .receiving stream }, [])
      | .error status => r.retry now lost backoff status
    | _ => (r, [])
  | .woken =>
    match r.stage with
    | .pausing lost backoff wake =>
      if wake ≤ now then ({ r with stage := .reopening lost backoff }, [.opening]) else (r, [])
    | _ => (r, [])
  | .cancelled => (r.stop, [])

/-- Steps in turn, each with its time: the receiver after all of them, and what they did. -/
def run (s : Settings) : Receiver → List (Duration × Signal) → Receiver × List Act
  | r, [] => (r, [])
  | r, (now, signal) :: rest =>
    let (r, acts) := r.step s now signal
    let (r, more) := run s r rest
    (r, acts ++ more)

end Receiver

end FeedLink.Grpc
