import FeedLink.Client.Channel
import FeedLink.Client.Intents
import FeedLink.Client.Monitoring
import FeedLink.Client.OnBlockCall
import FeedLink.Client.Recording
import FeedLink.Client.Subscriptions
import FeedLink.Client.Transactions
import FeedLink.Report
import FeedLink.Text.Hex

/-!
# Scripts for a client

Calls of a client written down in JSON, and carried out with a handler that records what reaches it.
Each step names an operation and its arguments, and yields a row with its result and with what the
handler was asked.
-/

namespace FeedLink.Client.Script

open Json Json.Lenient FeedLink.Script

/-! ## Arguments -/

/-- Bytes, in hexadecimal. -/
def bytesAt (v : Value) (key : String) : List UInt8 := (Hex.decode? (strAt v key)).getD []

def word64At? (v : Value) (key : String) : Option UInt64 := (natAt? v key).map UInt64.ofNat

def word32At? (v : Value) (key : String) : Option UInt32 := (natAt? v key).map UInt32.ofNat

/-- Texts under keys. -/
def tableAt (v : Value) (key : String) : List (String × String) :=
  match field v key with
  | .obj fields => fields.map fun f => (f.1, str f.2)
  | _ => []

def signed (v : Value) : Signed := ⟨bytesAt v "hash", bytesAt v "signature"⟩

def newTxParams (v : Value) : NewTxParams where
  items := textsAt v "include"
  filters := strAt? v "filters"
  network := strAt? v "blockchain_network"
  project := strAt? v "project"

def pendingTxParams (v : Value) : PendingTxParams where
  items := textsAt v "include"
  duplicates := flagAt v "duplicates"
  filters := strAt? v "filters"
  network := strAt? v "blockchain_network"
  project := strAt? v "project"

def sendTxParams (v : Value) : SendTxParams where
  transaction := strAt v "transaction"
  network := strAt? v "blockchain_network"
  nonceMonitoring := flagAt v "nonce_monitoring"
  validatorsOnly := flagAt v "validators_only"
  nextValidator := flagAt v "next_validator"
  fallback := word32At? v "fallback"
  nodeValidation := flagAt v "node_validation"

def privateTxParams (v : Value) : PrivateTxParams where
  transaction := strAt v "transaction"
  timeout := word32At? v "timeout"
  frontrunning := flagAt v "frontrunning"
  builders := tableAt v "mev_builders"

def ethBundleParams (v : Value) : EthBundleParams where
  transactions := textsAt v "transactions"
  blockNumber := strAt v "block_number"
  minTimestamp := word64At? v "min_timestamp"
  maxTimestamp := word64At? v "max_timestamp"
  revertingHashes := textsAt v "reverting_hashes"
  uuid := strAt? v "uuid"
  frontrunning := flagAt v "frontrunning"
  backrunMe := flagAt v "backrun_me"
  backrunMeRewardAddress := strAt? v "backrun_me_reward_address"
  builders := tableAt v "mev_builders"

def bscBundleParams (v : Value) : BscBundleParams where
  transactions := textsAt v "transactions"
  blockNumber := strAt v "block_number"
  minTimestamp := word64At? v "min_timestamp"
  maxTimestamp := word64At? v "max_timestamp"
  revertingHashes := textsAt v "reverting_hashes"
  uuid := strAt v "uuid"
  avoidMixedBundles := flagAt v "avoid_mixed_bundles"
  originalSenderAccountId := strAt v "original_sender_account_id"
  priorityFeeRefund := flagAt v "priority_fee_refund"
  refundRecipient := strAt v "refund_recipient"
  blocksCount := word32At? v "blocks_count"
  droppingTxHashes := textsAt v "dropping_tx_hashes"
  endOfBlock := flagAt v "end_of_block"
  builders := tableAt v "mev_builders"

/-- A call that is evaluated on every block: how it is made, its name and tag, and more
arguments. -/
def onBlockCall (v : Value) : OnBlockCall :=
  let nth (n : Nat) : String := str (item (field v "args") n)
  let call : OnBlockCall := match strAt v "make" with
    | "eth_call" => .ethCall (nth 0) (nth 1) (nth 2) (nth 3)
    | "get_balance" => .getBalance (nth 0)
    | "get_transaction_count" => .getTransactionCount (nth 0)
    | "get_code" => .getCode (nth 0)
    | "get_storage_at" => .getStorageAt (nth 0) (nth 1)
    | "block_number" => .blockNumber
    | _ => .new (strAt v "method")
  let call := match strAt? v "name" with
    | some name => call.named name
    | none => call
  let call := match strAt? v "tag" with
    | some tag => call.tagged tag
    | none => call
  (itemsAt v "extra").foldl (fun call e => call.arg (str (item e 0)) (str (item e 1))) call

/-! ## Operations -/

variable {σ : Type}

/-- The operation with a name that returns a value. -/
def request? (c : Client σ) (name : String) (v : Value) : Option (Exchange σ Value) :=
  match name with
  | "request" => some (c.request (strAt v "method") (field v "params"))
  | "send_tx" => some (c.sendTx (sendTxParams v))
  | "send_private_tx" => some (c.sendPrivateTx (privateTxParams v))
  | "send_eth_bundle" => some (c.sendEthBundle (ethBundleParams v))
  | "send_bsc_bundle" => some (c.sendBscBundle (bscBundleParams v))
  | "bsc_bundle_price" => some c.bscBundlePrice
  | "submit_intent" => some (c.submitIntent
      ⟨strAt v "dapp_address", strAt v "sender_address", bytesAt v "intent", signed v⟩)
  | "submit_intent_solution" => some (c.submitIntentSolution
      ⟨strAt v "solver_address", strAt v "intent_id", bytesAt v "intent_solution", signed v⟩)
  | "intent_solutions" => some (c.intentSolutions
      ⟨strAt v "dapp_or_sender_address", strAt v "intent_id", signed v⟩)
  | "submit_quote" => some (c.submitQuote
      ⟨strAt v "dapp_address", strAt v "solver_address", bytesAt v "quote", signed v⟩)
  | _ => none

/-- The operation with a name that returns nothing. -/
def action? (c : Client σ) (name : String) (v : Value) (callback : Callback) :
    Option (Exchange σ Unit) :=
  match name with
  | "subscribe" => some (c.subscribe ⟨strAt v "feed"⟩ (field v "params") callback)
  | "unsubscribe" => some (c.unsubscribe ⟨strAt v "feed"⟩)
  | "close" => some c.close
  | "on_new_txs" => some (c.onNewTxs (newTxParams v) callback)
  | "unsubscribe_new_txs" => some c.unsubscribeNewTxs
  | "on_pending_txs" => some (c.onPendingTxs (pendingTxParams v) callback)
  | "unsubscribe_pending_txs" => some c.unsubscribePendingTxs
  | "on_new_blocks" => some (c.onNewBlocks ⟨textsAt v "include"⟩ callback)
  | "unsubscribe_new_blocks" => some c.unsubscribeNewBlocks
  | "on_bdn_blocks" => some (c.onBdnBlocks ⟨textsAt v "include"⟩ callback)
  | "unsubscribe_bdn_blocks" => some c.unsubscribeBdnBlocks
  | "on_tx_receipts" => some (c.onTxReceipts ⟨textsAt v "include"⟩ callback)
  | "unsubscribe_tx_receipts" => some c.unsubscribeTxReceipts
  | "on_eth_on_block" => some (c.onEthOnBlock
      ⟨textsAt v "include", (itemsAt v "calls").map onBlockCall⟩ callback)
  | "unsubscribe_eth_on_block" => some c.unsubscribeEthOnBlock
  | "on_tx_status" => some (c.onTxStatus (textsAt v "transactions") callback)
  | "unsubscribe_tx_status" => some c.unsubscribeTxStatus
  | "on_user_intents" => some (c.onUserIntents
      ⟨strAt v "solver_address", signed v, strAt? v "dapp_address"⟩ callback)
  | "unsubscribe_user_intents" => some c.unsubscribeUserIntents
  | "on_intent_solutions" =>
    some (c.onIntentSolutions ⟨strAt v "dapp_address", signed v⟩ callback)
  | "unsubscribe_intent_solutions" => some c.unsubscribeIntentSolutions
  | "on_quotes" => some (c.onQuotes ⟨strAt v "dapp_address"⟩ callback)
  | "unsubscribe_quotes" => some c.unsubscribeQuotes
  | "monitor_txs" => some (c.monitorTxs (textsAt v "transactions"))
  | "stop_monitoring_txs" =>
    some (c.stopMonitoringTxs (textsAt v "transactions") (textsAt v "transaction_hashes"))
  | _ => none

/-! ## Steps -/

/-- How a call of the recording handler ends. -/
def planned (v : Value) : Planned :=
  match v.field? "error", v.field? "ok" with
  | some e, _ => .fails (handlerError e)
  | none, some v => .returns v
  | none, none => .asUsual

/-- What the recording handler was asked. -/
def asked : Asked → Value
  | .subscribe feed params => .arr [text "subscribe", text feed.name, text params.render]
  | .request method params => .arr [text "request", text method, text params.render]
  | .unsubscribe feed => .arr [text "unsubscribe", text feed.name]
  | .close => .arr [text "close"]

/-- What a script works with. -/
structure World where
  client : Client Recorder
  decoders : Decoders
  recorder : Recorder
  channels : Table String Channel
  /-- How many channels were asked for. -/
  drawn : Nat

namespace World

/-- The callback that shows what it gets under a label. -/
def shower (label : String) : Callback := ⟨"=" ++ label⟩

/-- The label under which a callback shows what it gets, if it does. -/
def label? (callback : Callback) : Option String :=
  match callback.name.toList with
  | '=' :: label => some (.ofList label)
  | _ => none

/-- The callback that fills the next channel. -/
def filler (w : World) : Callback := ⟨"#" ++ toString w.drawn⟩

/-- Does the handler still hold the callback that fills a channel? -/
def isOpen (w : World) (channel : Channel) : Bool :=
  w.recorder.callbacks.any fun e => e.2 = channel.callback

/-- Asks for a channel, and keeps it under a label if it was given. -/
def openChannel (w : World) (label : String) (v : Value) : World × List (String × Value) :=
  let (outcome, recorder) :=
    (w.client.subscribeChannel ⟨strAt v "feed"⟩ (field v "params") w.filler).run w.recorder
  let w := { w with recorder, drawn := w.drawn + 1 }
  match outcome with
  | .ok channel =>
    ({ w with channels := Table.set label channel w.channels },
      [("result", Report.result (.ok .null))])
  | .error e => (w, [("result", e.report)])

/-- Takes everything out of a channel, and tells whether more can come. -/
def drain (w : World) (label : String) : World × List (String × Value) :=
  match Table.get? label w.channels with
  | none => (w, [("got", .arr [])])
  | some channel =>
    let (got, rest) := channel.drain
    let more := text (if w.isOpen channel then "empty" else "closed")
    ({ w with channels := Table.set label rest w.channels },
      [("got", .arr (got.map Report.delivery ++ [more]))])

/-- Gives a payload to the callback of its feed, if there is one. -/
def push (w : World) (v : Value) : World × List (String × Value) :=
  let feed : Feed := ⟨strAt v "feed"⟩
  match Table.get? feed w.recorder.callbacks with
  | none => (w, [("known", .bool false)])
  | some callback =>
    let d := w.decoders.decode feed (field v "payload")
    let shown := (label? callback).toList.map fun l => pair (text l) (Report.delivery d)
    ({ w with channels := w.channels.map fun (l, c) => (l, c.deliver callback d) },
      ("known", .bool true) :: groups [("notify", shown)])

/-- Carries out an operation of the client. -/
def perform (w : World) (exchange : Exchange Recorder Value) : World × List (String × Value) :=
  let (outcome, recorder) := exchange.run w.recorder
  ({ w with recorder }, [("result", Report.result outcome)])

/-- Carries out one step: the world after it, and what there is to report. -/
def step (w : World) (name label : String) (v : Value) : World × List (String × Value) :=
  match name with
  | "about" => (w, [
      ("kind", text w.client.kind.display), ("network", text w.client.network),
      ("debug", text w.client.display), ("handler_kind", text w.client.handler.kind.display)])
  | "subscription_id" =>
    let id := w.client.subscriptionId? w.recorder ⟨strAt v "feed"⟩
    (w, [("id", optional (fun id => text id.text) id)])
  | "subscribe_channel" => w.openChannel label v
  | "drop_channel" => ({ w with channels := Table.erase label w.channels }, [])
  | "drain" => w.drain label
  | "push" => w.push v
  | name =>
    match request? w.client name v, action? w.client name v (shower label) with
    | some exchange, _ => w.perform exchange
    | none, some exchange => w.perform (do exchange; return .null)
    | none, none => (w, [])

end World

/-- Carries out one step: the world after it, and its row. -/
def step (w : World) (v : Value) : World × Value :=
  let w := { w with recorder := w.recorder.plan ((itemsAt v "plan").map planned) }
  let (w, fields) := w.step (strAt v "call") (strAt v "as") (field v "args")
  ({ w with recorder := w.recorder.forget },
    .object (fields ++ groups [("calls", w.recorder.asked.map asked)]))

/-- The rows of all steps. -/
def steps : World → List Value → List Value
  | _, [] => []
  | w, v :: rest =>
    let (w, row) := step w v
    row :: steps w rest

/-- The rows of a script. -/
def run (script : Value) : List Value :=
  let kind := EndpointKind.all.find? fun k => k.display = strAt script "kind"
  let client : Client Recorder :=
    ⟨Recorder.handler (kind.getD .cloudApi), strAt script "network"⟩
  steps ⟨client, decoders script, .empty, [], 0⟩ (itemsAt script "steps")

end FeedLink.Client.Script
