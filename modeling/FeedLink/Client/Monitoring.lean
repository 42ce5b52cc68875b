import FeedLink.Client.Basic

/-!
# Following what becomes of transactions

The cloud API tells what becomes of transactions: one subscribes to their status, and then says on
that subscription which transactions to follow.
-/

namespace FeedLink.Client

open Json

variable {σ : Type} (c : Client σ)

/-- The id of the active subscription to the status of transactions. -/
def statusSubscription : Exchange σ SubscriptionId := do
  match c.subscriptionId? (← get) .txStatus with
  | some id => pure id
  | none => throw (.notSubscribed .txStatus)

/-- Begins to follow transactions. -/
def monitorTxs (transactions : List String) : Exchange σ Unit := do
  c.requireCloudApi "transaction monitoring"
  let id ← c.statusSubscription
  let _ ← c.request "start_monitor_transaction" (.object [
    ("transactions", Params.texts transactions), ("subscription_id", .str id.text)])

/-- No longer follows transactions, and unsubscribes from their status. -/
def stopMonitoringTxs (transactions hashes : List String) : Exchange σ Unit := do
  c.requireCloudApi "transaction monitoring"
  let id ← c.statusSubscription
  let _ ← c.request "stop_monitor_transaction" (.object [
    ("transactions", Params.texts transactions), ("transaction_hash", Params.texts hashes),
    ("subscription_id", .str id.text)])
  c.unsubscribe .txStatus

/-- Subscribes to the status of transactions, and begins to follow those that are given. -/
def onTxStatus (transactions : List String) (callback : Callback) : Exchange σ Unit := do
  c.requireCloudApi "transaction status feed"
  c.subscribe .txStatus (.object [("include", Params.texts ["tx_hash", "status"])]) callback
  if transactions.isEmpty then pure () else c.monitorTxs transactions

def unsubscribeTxStatus : Exchange σ Unit := c.unsubscribe .txStatus

end FeedLink.Client
