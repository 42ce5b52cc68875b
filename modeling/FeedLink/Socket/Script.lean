import FeedLink.Report
import FeedLink.Socket.Scenario

/-!
# Scripts for a WebSocket handler

A scenario written down in JSON. Each step of a script names what is done and with what; running it
yields a row for the first connection and one for every step, which report what has happened and the
state of the handler.

Correlation ids are counted from one, so a frame of the server can name the id of any request before
it is sent: the count stands in the text between double braces.
-/

namespace FeedLink.Socket.Script

open Json Json.Lenient FeedLink.Script Scenario

/-! ## Reading -/

/-- Puts the counts between double braces in the place of these, in so many characters at most. -/
def fillIn : Nat → List Char → List Char
  | 0, cs => cs
  | _, [] => []
  | n + 1, '\x7b' :: '\x7b' :: cs =>
    let digits := cs.takeWhile Char.isDigit
    match cs.dropWhile Char.isDigit with
    | '\x7d' :: '\x7d' :: rest =>
      if digits.isEmpty then '\x7b' :: fillIn n ('\x7b' :: cs) else digits ++ fillIn n rest
    | _ => '\x7b' :: fillIn n ('\x7b' :: cs)
  | n + 1, c :: cs => c :: fillIn n cs

/-- A frame with the correlation ids that it names. -/
def withIds (s : String) : String := .ofList (fillIn s.length s.toList)

def dialPlan (v : Value) : DialPlan :=
  ⟨millisAt v "delay", (v.field? "error").map transportError⟩

def sendPlan : Value → Option TransportError
  | .null => none
  | v => some (transportError v)

/-- The connection that a step names. -/
def link? (v : Value) : Option LinkId := (natAt? v "conn").map LinkId.mk

/-- The command of a step, if it is one. -/
def command? (v : Value) : Option Command :=
  let call : CallId := ⟨strAt v "as"⟩
  let feed : Feed := ⟨strAt v "feed"⟩
  let params := field v "params"
  match strAt v "do" with
  | "subscribe" => some (.begin call (.subscribe feed params))
  | "request" => some (.begin call (.request (strAt v "method") params))
  | "unsubscribe" => some (.begin call (.unsubscribe feed))
  | "close" => some (.begin call .close)
  | "wait" => some (.begin call .join)
  | "abort" => some (.abandon call)
  | "server" => some (.deliver (link? v) (withIds (strAt v "text")))
  | "fail" => some (.fail (link? v) (transportError (field v "error")))
  | "dials" => some (.planDials ((itemsAt v "results").map dialPlan))
  | "dial_default" => some (.planOtherDials (dialPlan (field v "result")))
  | "sends" => some (.planSends ((itemsAt v "results").map sendPlan))
  | "advance" => some (.advance (millisAt v "ms"))
  | "drop_handler" => some .letGo
  | _ => none

/-! ## Reporting -/

/-- A dial that has ended, with what else there is to say about it. -/
def dialRow (extra : List (String × Value)) (began : Duration) :
    Except TransportError LinkId → Value
  | .ok link => .object ([("t", Report.millis began), ("ok", .bool true),
      ("conn", nat link.number)] ++ extra)
  | .error _ => .object ([("t", Report.millis began), ("ok", .bool false)] ++ extra)

/-- What has happened, sorted by its kind. -/
def happenings (extra : List (String × Value)) (h : List Happening) : List (String × Value) :=
  groups [
    ("dials", h.filterMap fun
      | .dialed began result => some (dialRow extra began result)
      | _ => none),
    ("sent", h.filterMap fun
      | .sent time link message failure => some (.object
          ([("t", Report.millis time), ("conn", nat link.number), ("text", text message)] ++
            (if failure.isSome then [("failed", .bool true)] else [])))
      | _ => none),
    ("closed", h.filterMap fun
      | .closed time link => some (.object
          [("t", Report.millis time), ("conn", nat link.number)])
      | _ => none),
    ("notify", h.filterMap fun
      | .notified callback d => some (pair (text callback.name) (Report.delivery d))
      | _ => none)] ++
  Report.doneFields (h.filterMap fun
    | .returned call r => some (call.name, Report.callResult r)
    | _ => none)

/-- One row: the time, the state while somebody can see it, and more. -/
def row (w : World) (more : List (String × Value)) : Value :=
  let state := if w.held then [("state", text w.handler.state.display)] else []
  .object ([("t", Report.millis w.now)] ++ state ++ more)

/-- The ids of the subscriptions to some feeds. -/
def ids (w : World) (feeds : List Value) : Value :=
  .arr (feeds.map fun f =>
    pair f (optional (fun id => text id.text) (w.handler.subscriptionId? ⟨str f⟩)))

/-- Carries out one step: the world after it, and its row. -/
def step (s : Settings) (t : Timed World World.Task) (v : Value) :
    Timed World World.Task × Value :=
  let t := match command? v with
    | some c => World.command s t c
    | none => t
  let w := t.world
  let asked :=
    if w.held && strAt v "do" = "ids" then [("ids", ids w (itemsAt v "feeds"))] else []
  ({ t with world := w.forget }, row w (happenings [] w.happened ++ asked))

/-- The rows of all steps. -/
def steps (s : Settings) : Timed World World.Task → List Value → List Value
  | _, [] => []
  | t, v :: rest =>
    let (t, row) := step s t v
    row :: steps s t rest

/-- The rows of a script. The configuration is given; the rest is read from the script. -/
def run (config : Config) (script : Value) : List Value :=
  match Settings.ofConfig config Config.standardVersion (decoders script) with
  | .error e => [.object [("connect", e.report), ("t", nat 0)]]
  | .ok s =>
    let (w, connected) := World.connect ((itemsAt script "dials").map dialPlan)
    let dials := happenings [("endpoint", Report.endpoint s.endpoint)] w.happened
    match connected with
    | .error e =>
      [.object ([("connect", (HandlerError.transport e).report), ("t", Report.millis w.now)] ++
        dials)]
    | .ok () =>
      row w (("connect", .object [("ok", text s.kind.display)]) :: dials) ::
        steps s ((World.time s).start w.forget) (itemsAt script "steps")

end FeedLink.Socket.Script
