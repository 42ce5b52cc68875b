import FeedLink.FeedHandler
import FeedLink.Table

/-!
# A handler that records

The recording handler writes down what it is asked, and answers as it was planned: the next plan, if
there is one, decides how the next call ends. Nothing is ever sent.
-/

namespace FeedLink

open Json

/-- What a handler was asked. -/
inductive Asked where
  | subscribe (feed : Feed) (params : Value)
  | request (method : String) (params : Value)
  | unsubscribe (feed : Feed)
  | close
deriving DecidableEq

/-- How a call ends. -/
inductive Planned where
  /-- As if nothing had been planned. -/
  | asUsual
  | fails (e : HandlerError)
  /-- It succeeds, and a request returns this. -/
  | returns (v : Value)

/-- What a recording handler knows. -/
structure Recorder where
  /-- What it was asked, the latest last. -/
  asked : List Asked
  planned : List Planned
  /-- The callbacks of the feeds that are subscribed. -/
  callbacks : Table Feed Callback

namespace Recorder

def empty : Recorder := ⟨[], [], []⟩

/-- Writes down what was asked, and takes the next plan. -/
def ask (asked : Asked) : Exchange Recorder Planned := fun r =>
  (.ok (r.planned.head?.getD .asUsual),
    { r with asked := r.asked ++ [asked], planned := r.planned.tail })

/-- A call that returns nothing, and what it changes if it succeeds. -/
def perform (asked : Asked) (change : Recorder → Recorder) : Exchange Recorder Unit := do
  match ← ask asked with
  | .fails e => throw e
  | .asUsual | .returns _ => modify change

/-- The recording handler of a kind. A request returns its method under `echo`. -/
def handler (kind : EndpointKind) : FeedHandler Recorder where
  kind := kind
  subscribe feed params callback := perform (.subscribe feed params) fun r =>
    { r with callbacks := Table.set feed callback r.callbacks }
  request method params := do
    match ← ask (.request method params) with
    | .fails e => throw e
    | .asUsual => return .object [("echo", .str method)]
    | .returns v => return v
  unsubscribe feed := perform (.unsubscribe feed) fun r =>
    { r with callbacks := Table.erase feed r.callbacks }
  close := perform .close id
  subscriptionId? r feed :=
    (Table.get? feed r.callbacks).map fun _ => ⟨"sub-" ++ feed.name⟩

/-- Plans how the next calls end, after those that are planned already. -/
def plan (plans : List Planned) (r : Recorder) : Recorder :=
  { r with planned := r.planned ++ plans }

/-- Forgets what was asked. -/
def forget (r : Recorder) : Recorder := { r with asked := [] }

end Recorder

end FeedLink
