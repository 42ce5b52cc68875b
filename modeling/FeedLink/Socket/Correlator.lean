import FeedLink.Error
import FeedLink.Inbound
import FeedLink.Table

/-!
# Requests and their replies

The correlator holds the requests that wait for a reply, under their keys. Every registration draws
a ticket, and its waiter asks with that ticket what became of it: a reply was dispatched to it, or
it was dropped without one. A registration leaves the table at the first operation that dispatches
or evicts its key, clears the table, or registers the key again, and it is settled by that operation
and never again.
-/

namespace FeedLink.Socket

open Json

/-- Names one registration. -/
structure Ticket where
  number : Nat
deriving DecidableEq, Repr

/-- What became of a registration. -/
inductive Settlement where
  | reply (outcome : Outcome)
  /-- It left the table without a reply. -/
  | dropped

/-- The requests that wait for a reply, and what became of those that no longer do. -/
structure Correlator where
  pending : Table String Ticket
  settled : Table Ticket Settlement
  /-- How many tickets were drawn. -/
  drawn : Nat

/-- The waiter's half of a registration. -/
structure PendingReply where
  ticket : Ticket
  key : String
  /-- What is waited for, in messages. -/
  what : String
deriving DecidableEq, Repr

namespace Correlator

def empty : Correlator := ⟨[], [], 0⟩

instance : Inhabited Correlator := ⟨empty⟩

/-- Takes the registration under a key out of the table and settles it. -/
def settle (c : Correlator) (key : String) (s : Settlement) : Bool × Correlator :=
  match Table.get? key c.pending with
  | none => (false, c)
  | some ticket =>
    (true, { c with pending := Table.erase key c.pending, settled := Table.set ticket s c.settled })

/-- Registers a request. An older registration under its key is dropped. -/
def register (c : Correlator) (id : RequestId) (what : String) : PendingReply × Correlator :=
  let c := (c.settle id.key .dropped).2
  (⟨⟨c.drawn⟩, id.key, what⟩,
    { c with pending := Table.set id.key ⟨c.drawn⟩ c.pending, drawn := c.drawn + 1 })

/-- Gives an outcome to the registration under a key; tells whether there was one. -/
def dispatch (c : Correlator) (key : String) (outcome : Outcome) : Bool × Correlator :=
  c.settle key (.reply outcome)

/-- Drops the registration under a key; tells whether there was one. -/
def evict (c : Correlator) (key : String) : Bool × Correlator := c.settle key .dropped

/-- Is a registration pending under the key? -/
def contains (c : Correlator) (key : String) : Bool := Table.has key c.pending

/-- Drops every registration; tells how many there were. -/
def clear (c : Correlator) : Nat × Correlator :=
  (c.pending.length,
    { c with
      pending := []
      settled := c.pending.foldl (fun s e => Table.set e.2 .dropped s) c.settled })

/-- How many registrations are pending. -/
def size (c : Correlator) : Nat := c.pending.length

/-- What became of the registration with a ticket, if it is settled. -/
def settlement? (c : Correlator) (ticket : Ticket) : Option Settlement :=
  Table.get? ticket c.settled

end Correlator

/-- What a waiter returns that was settled. -/
def Settlement.result : Settlement → Except HandlerError Value
  | .reply (.ok v) => .ok v
  | .reply (.error e) => .error (.remote e)
  | .dropped => .error .noResponse

/-- What a waiter returns that was not settled for `after`. -/
def PendingReply.timedOut (p : PendingReply) (after : Duration) : Except HandlerError Value :=
  .error (.timeout p.what after)

end FeedLink.Socket
