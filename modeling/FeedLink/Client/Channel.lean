import FeedLink.Client.Basic
import FeedLink.Notification

/-!
# Channels

A subscriber that does not want a callback can have its notifications collected in a channel, and
take them out when it likes.
-/

namespace FeedLink

/-- The receiving end of a subscription. -/
structure Channel where
  /-- The callback that fills the channel. -/
  callback : Callback
  /-- What was delivered and not taken out, the oldest first. -/
  waiting : List Delivery

namespace Channel

/-- A channel to which nothing was delivered. -/
def empty (callback : Callback) : Channel := ⟨callback, []⟩

/-- A callback is invoked: the channel that it fills keeps what is delivered. -/
def deliver (callback : Callback) (d : Delivery) (c : Channel) : Channel :=
  if callback = c.callback then { c with waiting := c.waiting ++ [d] } else c

/-- Takes out everything. -/
def drain (c : Channel) : List Delivery × Channel := (c.waiting, { c with waiting := [] })

end Channel

namespace Client

/-- Subscribes to a feed and collects its notifications in a channel. -/
def subscribeChannel {σ : Type} (c : Client σ) (feed : Feed) (params : Json.Value)
    (callback : Callback) : Exchange σ Channel := do
  c.subscribe feed params callback
  return .empty callback

end Client

end FeedLink
