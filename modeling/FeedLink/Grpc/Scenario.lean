import FeedLink.Grpc.Gateway
import FeedLink.Grpc.Handler
import FeedLink.VirtualTime

/-!
# A handler and a scripted gateway

A scenario runs a handler against a gateway of which everything is written down in advance: how long
each stream takes to open and each request to be answered, and how they end. Time stands still while
anything can go on, and moves on only when the script says so.

Every turn is a `Handler.step`, so whatever a scenario comes to, steps lead there too. What can be
seen from outside is recorded as a list of `Happening`s.
-/

namespace FeedLink.Grpc

open Json

/-! ## Whose turn it is -/

namespace Handler

/-- Would a turn let this call go on? -/
def canResume (now : Duration) (h : Handler) : Call → Bool
  | .subscribing _ _ _ token deadline => h.isCancelled token || deadline ≤ now
  | .requesting _ deadline => h.stopping || deadline ≤ now
  | .unsubscribing token deadline => h.hasEnded token || deadline ≤ now
  | .closing tokens => tokens.all h.hasEnded

/-- When a call goes on of itself. -/
def callAlarm? : Call → Option Duration
  | .subscribing _ _ _ _ deadline | .requesting _ deadline | .unsubscribing _ deadline =>
    some deadline
  | .closing _ => none

/-- When a receiver goes on of itself. -/
def receiverAlarm? (r : Receiver) : Option Duration :=
  match r.stage with
  | .pausing _ _ wake => some wake
  | _ => none

/-- The signal that a receiver gets when it has a turn, if it gets any. -/
def signalDue? (now : Duration) (h : Handler) (token : Token) (r : Receiver) : Option Signal :=
  if h.isCancelled token && !r.hasEnded then some .cancelled
  else if (receiverAlarm? r).any (· ≤ now) then some .woken
  else none

/-- Does somebody wait for the stream that is being opened? -/
def awaitsStream (h : Handler) : Opener → Bool
  | .call call =>
    match Table.get? call h.calls with
    | some (.subscribing _ _ _ _ _) => true
    | _ => false
  | .receiver token =>
    match (Table.get? token h.receivers).map Receiver.stage with
    | some (.reopening _ _) => true
    | _ => false

/-- Does a request with this name wait for its answer? -/
def awaitsAnswer (h : Handler) (call : CallId) : Bool :=
  match Table.get? call h.calls with
  | some (.requesting _ _) => true
  | _ => false

/-- The token of the receiver that holds a stream. -/
def holderOf? (h : Handler) (stream : StreamId) : Option Token :=
  (h.receivers.find? fun r => r.2.stream? = some stream).map (·.1)

end Handler

/-! ## The world -/

namespace Scenario

/-- How the gateway answers something. -/
structure Plan (α : Type) where
  /-- How long it takes, unless it never ends. -/
  takes : Option Duration
  outcome : Except Status α

/-- Something that the gateway has not answered. -/
structure Undone (κ α : Type) where
  who : κ
  /-- When it is answered, if ever. -/
  ends : Option Duration
  outcome : Except Status α

/-- What can be seen from outside. -/
inductive Happening where
  | opening (time : Duration) (feed : Feed) (params : Value)
  | calling (time : Duration) (method : String) (params : Value)
  | notified (time : Duration) (callback : Callback) (delivery : Delivery)
  | returned (call : CallId) (result : CallResult)

/-- What a caller can ask of a handler. -/
inductive Operation where
  | subscribe (feed : Feed) (params : Value)
  | request (method : String) (params : Value)
  | unsubscribe (feed : Feed)
  | close

/-- One line of a script. Where a stream is not named, it is the latest one. -/
inductive Command where
  /-- A caller begins a call. The callback of a subscribe is named for the call. -/
  | begin (call : CallId) (operation : Operation)
  /-- A caller drops a call. -/
  | abandon (call : CallId)
  | frame (stream : Option StreamId) (payloads : List Value)
  /-- The gateway fails a stream. -/
  | fail (stream : Option StreamId) (status : Status)
  /-- The gateway ends a stream. -/
  | finish (stream : Option StreamId)
  /-- How the next streams are opened. -/
  | planOpens (plans : List (Plan Unit))
  /-- How streams are opened that nothing else is said about. -/
  | planOtherOpens (plan : Plan Unit)
  /-- How the next requests are answered. -/
  | planAnswers (plans : List (Plan Value))
  /-- Time passes. -/
  | advance (span : Duration)
  /-- The owner of the handler lets it go; the calls that have not returned still hold it. -/
  | letGo

/-- What became of a stream. -/
inductive StreamState where
  | isOpen
  /-- The handler let go of it. -/
  | dropped
  /-- The gateway ended it. -/
  | ended
deriving DecidableEq, Repr

/-- A handler and the world around it. -/
structure World where
  now : Duration
  handler : Handler
  /-- How many streams were opened. -/
  streams : Nat
  /-- The streams that the gateway ended. -/
  finished : List StreamId
  opening : List (Undone Opener Unit)
  answering : List (Undone CallId Value)
  opens : List (Plan Unit)
  otherOpens : Plan Unit
  answers : List (Plan Value)
  /-- Does its owner still hold the handler? -/
  held : Bool
  /-- Was the handler dropped? -/
  released : Bool
  /-- What has happened, the latest last. -/
  happened : List Happening

namespace World

/-- The world before anything has happened. -/
def initial : World where
  now := .zero
  handler := .initial
  streams := 0
  finished := []
  opening := []
  answering := []
  opens := []
  otherOpens := ⟨some .zero, .ok ()⟩
  answers := []
  held := true
  released := false
  happened := []

def record (w : World) (what : Happening) : World := { w with happened := w.happened ++ [what] }

/-- What is answered by a plan that is carried out from now on. -/
def undone (w : World) (who : κ) (plan : Plan α) : Undone κ α :=
  ⟨who, plan.takes.map (w.now + ·), plan.outcome⟩

/-- Begins to open a stream. What no stream carries is refused without looking at the script. -/
def beginOpen (w : World) (opener : Opener) (feed : Feed) : World :=
  let enqueue (w : World) (plan : Plan Unit) : World :=
    { w with opening := w.opening ++ [w.undone opener plan] }
  if (Stream.ofFeed? feed).isNone then enqueue w ⟨some .zero, .error (Gateway.notStreamed feed)⟩
  else
    match w.opens with
    | [] => enqueue w w.otherOpens
    | plan :: rest => enqueue { w with opens := rest } plan

/-- Begins to answer a request. -/
def beginAnswer (w : World) (call : CallId) : World :=
  let plan := w.answers.head?.getD ⟨some .zero, .ok .null⟩
  { w with answering := w.answering ++ [w.undone call plan], answers := w.answers.tail }

/-- What an output of the handler does to the world. -/
def observe (w : World) : Output → World
  | .opening opener feed params => (w.record (.opening w.now feed params)).beginOpen opener feed
  | .calling call method params => (w.record (.calling w.now method params)).beginAnswer call
  | .notified callback delivery => w.record (.notified w.now callback delivery)
  | .returned call result => w.record (.returned call result)

/-- Lets the handler take one step. What nobody waits for any more is dropped. -/
def take (s : Settings) (w : World) (event : Event) : World :=
  let (h, outputs) := w.handler.step s w.now event
  let w := outputs.foldl observe { w with handler := h }
  { w with
    opening := w.opening.filter fun u => h.awaitsStream u.who
    answering := w.answering.filter fun u => h.awaitsAnswer u.who }

/-- Drops the handler if nobody holds it any more. -/
def release (s : Settings) (w : World) : World :=
  if !w.held && !w.released && w.handler.calls.isEmpty then
    { w with released := true }.take s .release
  else w

/-- Lets the handler take one step, after which it may be dropped. -/
def perform (s : Settings) (w : World) (event : Event) : World := (w.take s event).release s

/-- Is it time for something to be answered? -/
def isDue (w : World) (u : Undone κ α) : Bool := u.ends.any (· ≤ w.now)

/-- A stream is opened, or is not. -/
def endOpen (s : Settings) (w : World) (u : Undone Opener Unit) : World :=
  let (result, streams) : Except Status StreamId × Nat := match u.outcome with
    | .ok () => (.ok ⟨w.streams + 1⟩, w.streams + 1)
    | .error status => (.error status, w.streams)
  let w := { w with streams, opening := w.opening.filter fun other => other.who ≠ u.who }
  w.perform s <| match u.who with
    | .call call => .opened call result
    | .receiver token => .signal token (.opened result)

/-! ## Tasks -/

/-- What takes turns. A call and a receiver open their own streams. -/
inductive Task where
  | call (call : CallId)
  | receiver (token : Token)
deriving DecidableEq

/-- The tasks, the oldest first. -/
def tasks (w : World) : List Task :=
  w.handler.calls.reverse.map (.call ·.1) ++ w.handler.receivers.reverse.map (.receiver ·.1)

/-- Who opens a stream when a task does. -/
def Task.opener : Task → Opener
  | .call id => .call id
  | .receiver token => .receiver token

/-- The stream that a task waits for. -/
def openingOf? (w : World) (task : Task) : Option (Undone Opener Unit) :=
  w.opening.find? (·.who = task.opener)

/-- The answer that a task waits for. -/
def answeringOf? (w : World) : Task → Option (Undone CallId Value)
  | .call call => w.answering.find? (·.who = call)
  | .receiver _ => none

/-- When a task goes on of itself. -/
def alarms (w : World) (task : Task) : List Duration :=
  ((w.openingOf? task).bind (·.ends)).toList ++ ((w.answeringOf? task).bind (·.ends)).toList ++
    match task with
    | .call call => ((Table.get? call w.handler.calls).bind Handler.callAlarm?).toList
    | .receiver token =>
      ((Table.get? token w.handler.receivers).bind Handler.receiverAlarm?).toList

/-- What a task does when it has a turn, if it can go on. -/
def turn? (s : Settings) (w : World) (task : Task) : Option World :=
  if let some u := (w.openingOf? task).filter w.isDue then some (w.endOpen s u)
  else if let some u := (w.answeringOf? task).filter w.isDue then
    some (w.perform s (.answered u.who u.outcome))
  else
    match task with
    | .call call =>
      if (Table.get? call w.handler.calls).any (w.handler.canResume w.now) then
        some (w.perform s (.resume call))
      else none
    | .receiver token =>
      ((Table.get? token w.handler.receivers).bind (w.handler.signalDue? w.now token)).map
        fun signal => w.perform s (.signal token signal)

/-- More turns than can follow one another while time stands still: each call and each answer goes
on once, and each receiver wakes, opens a stream and ends at most. Where nobody waits between two
attempts to open a stream, each uses up a plan. -/
def turns (w : World) : Nat :=
  2 * w.handler.calls.length + 4 * w.handler.receivers.length + w.opening.length +
    w.answering.length + 3 * w.opens.length + 8

/-- How the world goes on. -/
def time (s : Settings) : VirtualTime World Task where
  now w := w.now
  setNow now w := { w with now }
  tasks := tasks
  alarms := alarms
  canGoOn w task := (w.turn? s task).isSome
  turn task w := (w.turn? s task).getD w
  turns := turns

/-- Begins a call, if the handler is still held. -/
def begin (s : Settings) (w : World) (call : CallId) (operation : Operation) : World :=
  if w.held then
    w.perform s <| match operation with
      | .subscribe feed params => .subscribe call feed params ⟨call.name⟩
      | .request method params => .request call method params
      | .unsubscribe feed => .unsubscribe call feed
      | .close => .close call
  else w

/-- The stream that the gateway means. -/
def streamOr (w : World) (stream : Option StreamId) : StreamId := stream.getD ⟨w.streams⟩

/-- Something happens on a stream, which its receiver gets to know if it still has one. -/
def onStream (s : Settings) (w : World) (stream : Option StreamId) (signal : StreamId → Signal) :
    World :=
  let stream := w.streamOr stream
  match w.handler.holderOf? stream with
  | some token => w.perform s (.signal token (signal stream))
  | none => w

/-- The gateway ends a stream, if it was opened. -/
def finish (s : Settings) (w : World) (stream : Option StreamId) : World :=
  let ended := w.streamOr stream
  if ended.number = 0 || w.streams < ended.number then w
  else { w with finished := ended :: w.finished }.onStream s stream .finished

/-- What a line of a script changes at once. -/
def change (s : Settings) (c : Command) (w : World) : World :=
  match c with
  | .begin call operation => w.begin s call operation
  | .abandon call => w.perform s (.abandon call)
  | .frame stream payloads => w.onStream s stream (.frame · payloads)
  | .fail stream status => w.onStream s stream (.failed · status)
  | .finish stream => w.finish s stream
  | .planOpens plans => { w with opens := w.opens ++ plans }
  | .planOtherOpens plan => { w with otherOpens := plan }
  | .planAnswers plans => { w with answers := w.answers ++ plans }
  | .advance _ => w
  | .letGo => { w with held := false }.release s

/-- Carries out one line of a script. -/
def command (s : Settings) (t : Timed World Task) (c : Command) : Timed World Task :=
  match c with
  | .advance span => (time s).settle ((time s).advance span t)
  | c => (time s).settle ((time s).update (change s c) t)

/-- What became of a stream. -/
def streamState (w : World) (stream : StreamId) : StreamState :=
  if w.finished.contains stream then .ended
  else if (w.handler.holderOf? stream).isSome then .isOpen
  else .dropped

/-- What became of the streams, in the order in which they were opened. -/
def streamStates (w : World) : List StreamState :=
  (List.range w.streams).map fun n => w.streamState ⟨n + 1⟩

/-- Forgets what has happened. -/
def forget (w : World) : World := { w with happened := [] }

end World

end Scenario

end FeedLink.Grpc
