import FeedLink.Socket.Step
import FeedLink.VirtualTime

/-!
# A handler in a scripted world

A scenario runs a handler against a scripted server: how long each dial takes and how it ends, how
the transport answers each send, and what the server does when are all written down in advance. Time
stands still while anything can go on, and moves on only when the script says so, to each alarm in
turn.

Every turn is a `Handler.step`, so whatever a scenario comes to, steps lead there too. What can be
seen from outside is recorded as a list of `Happening`s.
-/

namespace FeedLink.Socket

open Json

/-! ## Whose turn it is -/

namespace Handler

/-- Is the reader waiting for a dial? -/
def isDialing (h : Handler) : Bool :=
  match h.reader with
  | .dialing _ => true
  | _ => false

/-- Has the reader stopped? -/
def hasStopped (h : Handler) : Bool :=
  match h.reader with
  | .ended _ => true
  | _ => false

/-- Would a turn let this call go on? -/
def canResume (s : Settings) (now : Duration) (h : Handler) : Call → Bool
  | .subscribing _ pending deadline | .requesting pending deadline =>
    (h.replyResult s now pending deadline).isSome
  | .unsubscribing _ _ wake => wake ≤ now
  | .closing deadline => h.hasStopped || deadline ≤ now
  | .joining => h.hasStopped

/-- Would a turn let this batch go on? -/
def canSettle (s : Settings) (now : Duration) (h : Handler) (b : Batch) : Bool :=
  b.replays.isEmpty || b.replays.any fun r => (h.replyResult s now r.pending r.deadline).isSome

/-- When a call goes on of itself. -/
def callAlarm? : Call → Option Duration
  | .subscribing _ _ deadline | .requesting _ deadline | .closing deadline => some deadline
  | .unsubscribing _ _ wake => some wake
  | .joining => none

/-- When the reader goes on of itself. -/
def readerAlarm? (h : Handler) : Option Duration :=
  match h.reader with
  | .pausing _ wake => some wake
  | _ => none

end Handler

/-! ## The world -/

namespace Scenario

/-- How a dial goes. -/
structure DialPlan where
  takes : Duration
  failure : Option TransportError

/-- A dial that has not ended. -/
structure Dial where
  began : Duration
  plan : DialPlan

/-- When a dial ends. -/
def Dial.ends (d : Dial) : Duration := d.began + d.plan.takes

/-- What can be seen from outside. -/
inductive Happening where
  | dialed (began : Duration) (result : Except TransportError LinkId)
  | sent (time : Duration) (link : LinkId) (text : String) (failure : Option TransportError)
  | closed (time : Duration) (link : LinkId)
  | notified (callback : Callback) (delivery : Delivery)
  | returned (call : CallId) (result : CallResult)

/-- What a caller can ask of a handler. -/
inductive Operation where
  | subscribe (feed : Feed) (params : Value)
  | request (method : String) (params : Value)
  | unsubscribe (feed : Feed)
  | close
  | join

/-- One line of a script. -/
inductive Command where
  /-- A caller begins a call. The callback of a subscribe is named for the call. -/
  | begin (call : CallId) (operation : Operation)
  /-- A caller drops a call. -/
  | abandon (call : CallId)
  /-- The server sends a frame, on the latest connection unless another is named. -/
  | deliver (link : Option LinkId) (text : String)
  /-- A connection fails. -/
  | fail (link : Option LinkId) (e : TransportError)
  /-- How the next dials go. -/
  | planDials (plans : List DialPlan)
  /-- How dials go that nothing else is said about. -/
  | planOtherDials (plan : DialPlan)
  /-- How the next sends are answered. -/
  | planSends (answers : List (Option TransportError))
  /-- Time passes. -/
  | advance (span : Duration)
  /-- The owner of the handler lets it go; the calls that have not returned still hold it. -/
  | letGo

/-- A handler and the world around it. -/
structure World where
  now : Duration
  handler : Handler
  /-- How many connections were made. -/
  links : Nat
  /-- The connections that the handler closed. -/
  shut : List LinkId
  /-- The dial that the reader waits for. -/
  dial : Option Dial
  dials : List DialPlan
  otherDials : DialPlan
  sends : List (Option TransportError)
  /-- Does its owner still hold the handler? -/
  held : Bool
  /-- Was the handler dropped? -/
  released : Bool
  /-- What has happened, the latest last. -/
  happened : List Happening

namespace World

/-- How the next send is answered. -/
def answer (w : World) : Option TransportError := w.sends.head?.getD none

def record (w : World) (what : Happening) : World := { w with happened := w.happened ++ [what] }

/-- Begins a dial. -/
def beginDial (w : World) : World :=
  match w.dials with
  | [] => { w with dial := some ⟨w.now, w.otherDials⟩ }
  | plan :: rest => { w with dial := some ⟨w.now, plan⟩, dials := rest }

/-- What an output of the handler does to the world. -/
def observe (w : World) : Output → World
  | .sent link text failure =>
    { w.record (.sent w.now link text failure) with sends := w.sends.tail }
  | .closed link =>
    if link ∈ w.shut then w else { w.record (.closed w.now link) with shut := link :: w.shut }
  | .dialing => w.beginDial
  | .notified callback delivery => w.record (.notified callback delivery)
  | .returned call result => w.record (.returned call result)

/-- Lets the handler take one step. A dial that nobody waits for any more is dropped. -/
def take (s : Settings) (w : World) (event : Event) : World :=
  let (handler, outputs) := w.handler.step s w.now event
  let w := outputs.foldl observe { w with handler }
  { w with dial := if handler.isDialing then w.dial else none }

/-- Drops the handler if nobody holds it any more. -/
def release (s : Settings) (w : World) : World :=
  if !w.held && !w.released && w.handler.calls.isEmpty then
    { w with released := true }.take s .release
  else w

/-- Lets the handler take one step, after which it may be dropped. -/
def perform (s : Settings) (w : World) (event : Event) : World := (w.take s event).release s

/-- A dial ends. -/
def endDial (s : Settings) (w : World) (d : Dial) : World :=
  let (result, links) := match d.plan.failure with
    | some e => (.error e, w.links)
    | none => (.ok ⟨w.links + 1⟩, w.links + 1)
  { w.record (.dialed d.began result) with links }.perform s (.dialed result w.sends)

/-! ## Tasks -/

/-- What takes turns. -/
inductive Task where
  | reader
  /-- The replays of one recovery. -/
  | batch (recovery : Nat)
  | call (call : CallId)
deriving DecidableEq

/-- The tasks, the oldest first. -/
def tasks (w : World) : List Task :=
  .reader :: w.handler.batches.map (.batch ·.recovery) ++ w.handler.calls.reverse.map (.call ·.1)

/-- The batch of a recovery, if it still waits. -/
def batch? (w : World) (recovery : Nat) : Option Batch :=
  w.handler.batches.find? (·.recovery = recovery)

/-- When a task goes on of itself. -/
def alarms (w : World) : Task → List Duration
  | .reader => (w.dial.map Dial.ends).toList ++ w.handler.readerAlarm?.toList
  | .batch recovery => (w.batch? recovery).toList.flatMap fun b => b.replays.map (·.deadline)
  | .call call => ((Table.get? call w.handler.calls).bind Handler.callAlarm?).toList

/-- The dial that ends now. -/
def dialDue? (w : World) : Option Dial := w.dial.filter (·.ends ≤ w.now)

/-- Has the reader been told to stop, and not yet noticed? -/
def mustStop (w : World) : Bool := w.handler.stopping && !w.handler.hasStopped

def canGoOn (s : Settings) (w : World) : Task → Bool
  | .reader => w.mustStop || w.dialDue?.isSome || w.handler.readerAlarm?.any (· ≤ w.now)
  | .batch recovery => (w.batch? recovery).any (w.handler.canSettle s w.now)
  | .call call => (Table.get? call w.handler.calls).any (w.handler.canResume s w.now)

/-- Gives a task its turn. -/
def turn (s : Settings) (task : Task) (w : World) : World :=
  match task with
  | .reader =>
    if w.mustStop then w.perform s .noticed
    else
      match w.dialDue? with
      | some d => w.endDial s d
      | none => w.perform s .woken
  | .batch recovery => w.perform s (.settle recovery)
  | .call call => w.perform s (.resume call w.answer)

/-- More turns than can follow one another while time stands still: each call, each replay and each
batch goes on at most once, a recovery makes at most one replay of each feed, and the reader and the
dial have a few turns between them. Where nobody waits between two attempts, each uses up a planned
dial or a planned answer. -/
def turns (w : World) : Nat :=
  let h := w.handler
  h.calls.length + h.batches.foldl (fun n b => n + b.replays.length + 1) 0 + h.registry.size +
    2 * w.dials.length + w.sends.length + 8

/-- How the world goes on. -/
def time (s : Settings) : VirtualTime World Task where
  now w := w.now
  setNow now w := { w with now }
  tasks := tasks
  alarms := alarms
  canGoOn := canGoOn s
  turn := turn s
  turns := turns

/-- Begins a call, if the handler is still held. -/
def begin (s : Settings) (w : World) (call : CallId) (operation : Operation) : World :=
  if w.held then
    w.perform s <| match operation with
      | .subscribe feed params => .subscribe call feed params ⟨call.name⟩ w.answer
      | .request method params => .request call method params w.answer
      | .unsubscribe feed => .unsubscribe call feed w.answer
      | .close => .close call w.answer
      | .join => .join call
  else w

/-- The connection that the server means. -/
def linkOr (w : World) (link : Option LinkId) : LinkId := link.getD ⟨w.links⟩

/-- What a line of a script changes at once. -/
def change (s : Settings) (c : Command) (w : World) : World :=
  match c with
  | .begin call operation => w.begin s call operation
  | .abandon call => w.perform s (.abandon call)
  | .deliver link text => w.perform s (.received (w.linkOr link) text)
  | .fail link e => w.perform s (.lost (w.linkOr link) e)
  | .planDials plans => { w with dials := w.dials ++ plans }
  | .planOtherDials plan => { w with otherDials := plan }
  | .planSends answers => { w with sends := w.sends ++ answers }
  | .advance _ => w
  | .letGo => { w with held := false }.release s

/-- Carries out one line of a script. -/
def command (s : Settings) (t : Timed World Task) (c : Command) : Timed World Task :=
  match c with
  | .advance span => (time s).settle ((time s).advance span t)
  | c => (time s).settle ((time s).update (change s c) t)

/-- The world after the first dial, and its outcome. The world waits for that dial to end. -/
def connect (dials : List DialPlan) : World × Except TransportError Unit :=
  let plan := dials.head?.getD ⟨.zero, none⟩
  let link : LinkId := ⟨1⟩
  let w : World := {
    now := plan.takes
    handler := .initial link
    links := 1
    shut := []
    dial := none
    dials := dials.tail
    otherDials := ⟨.zero, none⟩
    sends := []
    held := true
    released := false
    happened := [] }
  match plan.failure with
  | none => (w.record (.dialed .zero (.ok link)), .ok ())
  | some e => (w.record (.dialed .zero (.error e)), .error e)

/-- Forgets what has happened. -/
def forget (w : World) : World := { w with happened := [] }

end World

end Scenario

end FeedLink.Socket
