import FeedLink.Error
import FeedLink.Request
import FeedLink.Table

/-!
# Subscriptions

The registry holds at most one subscription for each feed: a reservation while its subscribe request
waits for the server, then an active subscription under the id that the server gave it. Two indices
go with the slots, one from that id to the feed and one from the key of a waiting request, its
token, to the feed.

When a connection is lost, `takeAll` empties the registry and returns what has to be subscribed
again: every active subscription, and every replay of one that was still waiting.
-/

namespace FeedLink.Socket

open Json

/-- A subscription that the server acknowledged. -/
structure Subscription where
  feed : Feed
  /-- The request last sent for the feed. -/
  request : Request
  callback : Callback
  id : SubscriptionId
deriving DecidableEq

/-- What holds a feed. -/
inductive Slot where
  /-- The request was sent and waits for the server. In a replay `previous` is the id that the
  subscription had on a connection now lost. -/
  | reserved (request : Request) (callback : Callback) (previous : Option SubscriptionId)
  | active (subscription : Subscription)
deriving DecidableEq

/-- The slots of the feeds, with their two indices. -/
structure Registry where
  slots : Table Feed Slot
  byId : Table SubscriptionId Feed
  byToken : Table String Feed
deriving DecidableEq

/-- What a caller may know about its feed. -/
inductive Holding where
  | none
  /-- Subscribed, but not acknowledged. -/
  | pending
  | active (id : SubscriptionId)
deriving DecidableEq, Repr

namespace Registry

def empty : Registry := ⟨[], [], []⟩

instance : Inhabited Registry := ⟨empty⟩

/-- Puts a reservation into the slot of a feed that has none. -/
def insertReserved (r : Registry) (feed : Feed) (request : Request) (callback : Callback)
    (previous : Option SubscriptionId) : Except HandlerError Registry :=
  if Table.has feed r.slots then .error (.alreadySubscribed feed)
  else .ok { r with
    slots := Table.set feed (.reserved request callback previous) r.slots
    byToken := Table.set request.id.key feed r.byToken }

/-- Reserves a feed for a subscribe request. -/
def reserve (r : Registry) (feed : Feed) (request : Request) (callback : Callback) :
    Except HandlerError Registry :=
  r.insertReserved feed request callback none

/-- Reserves the feed of a lost subscription for a request that subscribes to it again. -/
def reserveReplay (r : Registry) (lost : Subscription) (request : Request) :
    Except HandlerError Registry :=
  r.insertReserved lost.feed request lost.callback (some lost.id)

/-- Does the token belong to a reservation? -/
def isReserved (r : Registry) (token : String) : Bool := Table.has token r.byToken

/-- Makes the reservation under a token an active subscription, and tells its feed. -/
def confirm (r : Registry) (token : String) (id : SubscriptionId) : Option Feed × Registry :=
  match Table.get? token r.byToken with
  | none => (none, r)
  | some feed =>
    let byToken := Table.erase token r.byToken
    match Table.get? feed r.slots with
    | some (.reserved request callback _) =>
      (some feed, {
        slots := Table.set feed (.active ⟨feed, request, callback, id⟩) r.slots
        byId := Table.set id feed r.byId
        byToken })
    | _ => (none, { r with slots := Table.erase feed r.slots, byToken })

/-- Takes back the reservation under a token, and tells its feed. -/
def release (r : Registry) (token : String) : Option Feed × Registry :=
  match Table.get? token r.byToken with
  | none => (none, r)
  | some feed =>
    (some feed,
      { r with slots := Table.erase feed r.slots, byToken := Table.erase token r.byToken })

/-- The feed and the callback to which a push with this id goes. -/
def route (r : Registry) (id : SubscriptionId) : Option (Feed × Callback) :=
  match Table.get? id r.byId with
  | none => none
  | some feed =>
    match Table.get? feed r.slots with
    | some (.active s) => some (s.feed, s.callback)
    | _ => none

/-- Takes out an active subscription. A reservation is left alone. -/
def unregister (r : Registry) (feed : Feed) : Option Subscription × Registry :=
  match Table.get? feed r.slots with
  | some (.active s) =>
    (some s, { r with slots := Table.erase feed r.slots, byId := Table.erase s.id r.byId })
  | _ => (none, r)

/-- Is the feed reserved or active? -/
def contains (r : Registry) (feed : Feed) : Bool := Table.has feed r.slots

/-- How a feed is held. -/
def holding (r : Registry) (feed : Feed) : Holding :=
  match Table.get? feed r.slots with
  | none => .none
  | some (.reserved _ _ _) => .pending
  | some (.active s) => .active s.id

/-- The subscription to make again out of what holds a feed. -/
def replayable : Feed × Slot → Option Subscription
  | (_, .active s) => some s
  | (feed, .reserved request callback (some id)) => some ⟨feed, request, callback, id⟩
  | (_, .reserved _ _ none) => none

/-- Puts a subscription before the first whose feed is greater. -/
def insertByFeed (s : Subscription) : List Subscription → List Subscription
  | [] => [s]
  | t :: rest => if s.feed < t.feed then s :: t :: rest else t :: insertByFeed s rest

/-- What has to be subscribed again, in ascending order of feeds. -/
def replayables (r : Registry) : List Subscription :=
  (r.slots.filterMap replayable).foldr insertByFeed []

/-- Empties the registry, and tells what has to be subscribed again. -/
def takeAll (r : Registry) : List Subscription × Registry := (r.replayables, empty)

/-- How many ids route to a feed. -/
def activeCount (r : Registry) : Nat := r.byId.length

/-- How many feeds are reserved or active. -/
def size (r : Registry) : Nat := r.slots.length

end Registry

end FeedLink.Socket
