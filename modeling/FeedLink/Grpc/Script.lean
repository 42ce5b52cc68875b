import FeedLink.Grpc.Scenario
import FeedLink.Report

/-!
# Scripts for a gRPC handler

A scenario written down in JSON. Each step of a script names what is done and with what; running it
yields a row for every step, which reports what has happened and what became of the streams.
-/

namespace FeedLink.Grpc.Script

open Json Json.Lenient FeedLink.Script Scenario

/-! ## Reading -/

def status (v : Value) : Status := ⟨.ofInt (intAt v "code"), strAt v "message"⟩

/-- How something is answered; `value` reads what it is answered with. -/
def plan (value : Value → α) (v : Value) : Plan α :=
  ⟨if flagAt v "hang" then none else some (millisAt v "delay"),
    match field v "status" with
    | .null => .ok (value v)
    | v => .error (status v)⟩

def openPlan (v : Value) : Plan Unit := plan (fun _ => ()) v

def answerPlan (v : Value) : Plan Value := plan (field · "value") v

/-- The stream that a step names. -/
def stream? (v : Value) : Option StreamId := (natAt? v "stream").map StreamId.mk

/-- The command of a step, if it is one. -/
def command? (v : Value) : Option Command :=
  let call : CallId := ⟨strAt v "as"⟩
  let feed : Feed := ⟨strAt v "feed"⟩
  let params := field v "params"
  match strAt v "do" with
  | "subscribe" => some (.begin call (.subscribe feed params))
  | "request" => some (.begin call (.request (strAt v "method") params))
  | "unsubscribe" => some (.begin call (.unsubscribe feed))
  | "close" => some (.begin call .close)
  | "abort" => some (.abandon call)
  | "frame" => some (.frame (stream? v) (itemsAt v "payloads"))
  | "fail" => some (.fail (stream? v) (status v))
  | "end" => some (.finish (stream? v))
  | "opens" => some (.planOpens ((itemsAt v "results").map openPlan))
  | "open_default" => some (.planOtherOpens (openPlan (field v "result")))
  | "calls" => some (.planAnswers ((itemsAt v "results").map answerPlan))
  | "advance" => some (.advance (millisAt v "ms"))
  | "drop_handler" => some .letGo
  | _ => none

/-! ## Reporting -/

def streamState : StreamState → Value
  | .isOpen => text "open"
  | .dropped => text "dropped"
  | .ended => text "ended"

/-- What has happened, sorted by its kind. -/
def happenings (h : List Happening) : List (String × Value) :=
  groups [
    ("opens", h.filterMap fun
      | .opening time feed params => some (.object
          [("t", Report.millis time), ("feed", text feed.name), ("params", params)])
      | _ => none),
    ("calls", h.filterMap fun
      | .calling time method params => some (.object
          [("t", Report.millis time), ("method", text method), ("params", params)])
      | _ => none),
    ("notify", h.filterMap fun
      | .notified time callback d => some (.arr
          [text callback.name, Report.millis time, Report.delivery d])
      | _ => none)] ++
  Report.doneFields (h.filterMap fun
    | .returned call r => some (call.name, Report.callResult r)
    | _ => none)

/-- Carries out one step: the world after it, and its row. A handler over gRPC has no ids of
subscriptions to tell. -/
def step (s : Settings) (t : Timed World World.Task) (v : Value) :
    Timed World World.Task × Value :=
  let t := match command? v with
    | some c => World.command s t c
    | none => t
  let w := t.world
  let active := if w.held then [("active", nat w.handler.activeCount)] else []
  let asked :=
    if w.held && strAt v "do" = "query" then
      [("kind", text EndpointKind.gatewayGrpc.display), ("subscription_id", .null)]
    else []
  let streams := ("streams", Value.arr (w.streamStates.map streamState))
  ({ t with world := w.forget },
    .object ([("t", Report.millis w.now), streams] ++ active ++ asked ++ happenings w.happened))

/-- The rows of all steps. -/
def steps (s : Settings) : Timed World World.Task → List Value → List Value
  | _, [] => []
  | t, v :: rest =>
    let (t, row) := step s t v
    row :: steps s t rest

/-- The rows of a script. The configuration is given; the rest is read from the script. -/
def run (config : Config) (script : Value) : List Value :=
  let s := Settings.ofConfig config (decoders script)
  steps s ((World.time s).start .initial) (itemsAt script "steps")

end FeedLink.Grpc.Script
