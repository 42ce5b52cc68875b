import FeedLink.Endpoint
import FeedLink.Error

/-!
# Handlers as their callers see them

A handler is a state and what can be asked of it. Each thing asked is an `Exchange`: it may fail,
and whether or not it does, it leaves the handler in some state.
-/

namespace FeedLink

open Json

/-- Something that is done with a handler whose state is a `σ`. -/
abbrev Exchange (σ α : Type) : Type := ExceptT HandlerError (StateM σ) α

/-- What can be asked of a handler whose state is a `σ`. -/
structure FeedHandler (σ : Type) where
  kind : EndpointKind
  /-- Subscribes to a feed. It returns when the server has acknowledged or refused. -/
  subscribe : Feed → Value → Callback → Exchange σ Unit
  /-- Sends a request and returns its result. -/
  request : String → Value → Exchange σ Value
  /-- Unsubscribes from a feed; one that is not subscribed is left alone. -/
  unsubscribe : Feed → Exchange σ Unit
  close : Exchange σ Unit
  /-- The id of the active subscription to a feed, in a binding that has ids. -/
  subscriptionId? : σ → Feed → Option SubscriptionId

end FeedLink
