import FeedLink.Json.Codec

/-!
# Feeds and subscriptions

A feed is a named class of push notifications. A handler holds at most one subscription to a feed
at a time, and the server names each subscription with an id of its own choice, which means
something on one connection only.
-/

namespace FeedLink

/-- A named class of notifications. -/
structure Feed where
  name : String
deriving DecidableEq, Repr, Inhabited, Hashable

/-- The id that a server gives to a subscription when it acknowledges it. -/
structure SubscriptionId where
  text : String
deriving DecidableEq, Repr, Inhabited, Hashable

/-- The receiver of the notifications of one subscription, told apart by a name. -/
structure Callback where
  name : String
deriving DecidableEq, Repr, Inhabited

namespace Feed

def newTxs : Feed := ⟨"newTxs"⟩
def pendingTxs : Feed := ⟨"pendingTxs"⟩
def newBlocks : Feed := ⟨"newBlocks"⟩
def bdnBlocks : Feed := ⟨"bdnBlocks"⟩
def ethOnBlock : Feed := ⟨"ethOnBlock"⟩
def txStatus : Feed := ⟨"transactionStatus"⟩
def txReceipts : Feed := ⟨"txReceipts"⟩
def userIntents : Feed := ⟨"userIntentFeed"⟩
def userIntentSolutions : Feed := ⟨"userIntentSolutionsFeed"⟩
def quotes : Feed := ⟨"quotesFeed"⟩

/-- Every feed whose notifications have a type of their own. -/
def builtin : List Feed :=
  [newTxs, pendingTxs, newBlocks, bdnBlocks, ethOnBlock, txStatus, txReceipts, userIntents,
    userIntentSolutions, quotes]

/-- The feeds that a gateway streams over gRPC. -/
def streamed : List Feed := [newTxs, pendingTxs, newBlocks, bdnBlocks]

/-- Feeds are ordered by the bytes of their names. -/
instance : LT Feed := ⟨fun a b => a.name < b.name⟩

instance : DecidableLT Feed := fun a b => inferInstanceAs (Decidable (a.name < b.name))

/-- A feed is written as its name. -/
def codec : Json.Codec Feed where
  read d := (Json.Codec.string.read d).map Feed.mk
  write f := .str f.name

/-- Puts a feed before the first feed that is greater. -/
def insertSorted (f : Feed) : List Feed → List Feed
  | [] => [f]
  | g :: rest => if f < g then f :: g :: rest else g :: insertSorted f rest

/-- Feeds in ascending order; equal feeds are kept. -/
def sort (feeds : List Feed) : List Feed := feeds.foldr insertSorted []

end Feed

end FeedLink
