import FeedLink.Client.Basic

/-!
# Feeds of transactions and blocks

Where the caller names no items to include, each feed has a default of its own.
-/

namespace FeedLink

open Json

/-- What to deliver of new transactions. -/
structure NewTxParams where
  items : List String
  /-- A filter expression. -/
  filters : Option String
  network : Option String
  /-- The name of a project whose transactions are simulated. -/
  project : Option String
deriving DecidableEq, Repr

def NewTxParams.toValue (p : NewTxParams) : Value :=
  .object ([("include", Params.texts p.items)] ++ Params.givenText "filters" p.filters ++
    Params.givenText "blockchain_network" p.network ++ Params.givenText "project" p.project)

/-- What to deliver of pending transactions. -/
structure PendingTxParams where
  items : List String
  /-- Deliver transactions again that were seen before? -/
  duplicates : Bool
  filters : Option String
  network : Option String
  project : Option String
deriving DecidableEq, Repr

def PendingTxParams.toValue (p : PendingTxParams) : Value :=
  .object ([("include", Params.texts p.items), ("duplicates", .bool p.duplicates)] ++
    Params.givenText "filters" p.filters ++ Params.givenText "blockchain_network" p.network ++
    Params.givenText "project" p.project)

/-- What to deliver of blocks or of receipts. -/
structure ItemParams where
  items : List String
deriving DecidableEq, Repr

def ItemParams.toValue (p : ItemParams) : Value := .object [("include", Params.texts p.items)]

namespace Client

variable {σ : Type} (c : Client σ)

/-- Subscribes to transactions as the network first sees them. -/
def onNewTxs (p : NewTxParams) (callback : Callback) : Exchange σ Unit :=
  c.subscribe .newTxs
    { p with items := Params.includeOr p.items ["tx_hash"] }.toValue callback

def unsubscribeNewTxs : Exchange σ Unit := c.unsubscribe .newTxs

/-- Subscribes to transactions that enter the pool of a node. -/
def onPendingTxs (p : PendingTxParams) (callback : Callback) : Exchange σ Unit :=
  c.subscribe .pendingTxs
    { p with items := Params.includeOr p.items ["tx_hash"] }.toValue callback

def unsubscribePendingTxs : Exchange σ Unit := c.unsubscribe .pendingTxs

def onNewBlocks (p : ItemParams) (callback : Callback) : Exchange σ Unit :=
  c.subscribe .newBlocks
    { p with items := Params.includeOr p.items ["hash", "header"] }.toValue callback

def unsubscribeNewBlocks : Exchange σ Unit := c.unsubscribe .newBlocks

/-- Subscribes to blocks before the node has validated them. -/
def onBdnBlocks (p : ItemParams) (callback : Callback) : Exchange σ Unit :=
  c.subscribe .bdnBlocks
    { p with items := Params.includeOr p.items ["hash"] }.toValue callback

def unsubscribeBdnBlocks : Exchange σ Unit := c.unsubscribe .bdnBlocks

def onTxReceipts (p : ItemParams) (callback : Callback) : Exchange σ Unit :=
  c.subscribe .txReceipts
    { p with items := Params.includeOr p.items ["block_hash"] }.toValue callback

def unsubscribeTxReceipts : Exchange σ Unit := c.unsubscribe .txReceipts

end Client

end FeedLink
