import FeedLink.Json.Codec

/-!
# Notifications about transactions

The payloads of the feeds of new and pending transactions, of the status of transactions that a
caller watches, and of receipts. The server sends only what a subscriber asked to be included, so
every field may be missing.
-/

namespace FeedLink

open Json

/-- What a transaction says. -/
structure TxContents where
  accessList : List Value
  chainId : String
  sender : String
  gas : String
  gasPrice : String
  hash : String
  input : String
  maxFeePerGas : String
  maxPriorityFeePerGas : String
  nonce : String
  r : String
  s : String
  receiver : String
  kind : String
  v : String
  value : String
deriving DecidableEq

namespace TxContents

/-- The record of which no field was sent. -/
def blank : TxContents := ⟨[], "", "", "", "", "", "", "", "", "", "", "", "", "", "", ""⟩

def record : Record TxContents where
  name := "TxContents"
  blank := blank
  fields := [
    .defaulted "accessList" Codec.value.list (·.accessList) fun a t => { t with accessList := a },
    .defaulted "chainId" .string (·.chainId) fun a t => { t with chainId := a },
    .defaulted "from" .string (·.sender) fun a t => { t with sender := a },
    .defaulted "gas" .string (·.gas) fun a t => { t with gas := a },
    .defaulted "gasPrice" .string (·.gasPrice) fun a t => { t with gasPrice := a },
    .defaulted "hash" .string (·.hash) fun a t => { t with hash := a },
    .defaulted "input" .string (·.input) fun a t => { t with input := a },
    .defaulted "maxFeePerGas" .string (·.maxFeePerGas) fun a t => { t with maxFeePerGas := a },
    .defaulted "maxPriorityFeePerGas" .string (·.maxPriorityFeePerGas)
      fun a t => { t with maxPriorityFeePerGas := a },
    .defaulted "nonce" .string (·.nonce) fun a t => { t with nonce := a },
    .defaulted "r" .string (·.r) fun a t => { t with r := a },
    .defaulted "s" .string (·.s) fun a t => { t with s := a },
    .defaulted "to" .string (·.receiver) fun a t => { t with receiver := a },
    .defaulted "type" .string (·.kind) fun a t => { t with kind := a },
    .defaulted "v" .string (·.v) fun a t => { t with v := a },
    .defaulted "value" .string (·.value) fun a t => { t with value := a }]

end TxContents

/-- A transaction that was seen. -/
structure NewTx where
  txHash : String
  txContents : Option TxContents
  localRegion : Bool
  time : String
  rawTx : String
deriving DecidableEq

namespace NewTx

/-- The record of which no field was sent. -/
def blank : NewTx := ⟨"", none, false, "", ""⟩

def record : Record NewTx where
  name := "NewTxNotification"
  blank := blank
  fields := [
    .defaulted "txHash" .string (·.txHash) fun a t => { t with txHash := a },
    .defaulted "txContents" TxContents.record.codec.option (·.txContents)
      fun a t => { t with txContents := a },
    .defaulted "localRegion" .bool (·.localRegion) fun a t => { t with localRegion := a },
    .defaulted "time" .string (·.time) fun a t => { t with time := a },
    .defaulted "rawTx" .string (·.rawTx) fun a t => { t with rawTx := a }]

end NewTx

/-- What became of a watched transaction. -/
structure TxStatus where
  txHash : String
  status : String
deriving DecidableEq

namespace TxStatus

/-- The record of which no field was sent. -/
def blank : TxStatus := ⟨"", ""⟩

def record : Record TxStatus where
  name := "TxStatusNotification"
  blank := blank
  fields := [
    (Field.defaulted "txHash" .string (·.txHash)
      fun a t => { t with txHash := a }).also ["tx_hash"],
    .defaulted "status" .string (·.status) fun a t => { t with status := a }]

end TxStatus

/-- An entry of the log of a receipt. -/
structure ReceiptLog where
  address : String
  topics : List String
  data : String
  blockNumber : String
  transactionHash : String
  transactionIndex : String
  blockHash : String
  logIndex : String
  removed : Bool
deriving DecidableEq

namespace ReceiptLog

/-- The record of which no field was sent. -/
def blank : ReceiptLog := ⟨"", [], "", "", "", "", "", "", false⟩

def record : Record ReceiptLog where
  name := "ReceiptLog"
  blank := blank
  fields := [
    .defaulted "address" .string (·.address) fun a l => { l with address := a },
    .defaulted "topics" Codec.string.list (·.topics) fun a l => { l with topics := a },
    .defaulted "data" .string (·.data) fun a l => { l with data := a },
    .defaulted "blockNumber" .string (·.blockNumber) fun a l => { l with blockNumber := a },
    .defaulted "transactionHash" .string (·.transactionHash)
      fun a l => { l with transactionHash := a },
    .defaulted "transactionIndex" .string (·.transactionIndex)
      fun a l => { l with transactionIndex := a },
    .defaulted "blockHash" .string (·.blockHash) fun a l => { l with blockHash := a },
    .defaulted "logIndex" .string (·.logIndex) fun a l => { l with logIndex := a },
    .defaulted "removed" .bool (·.removed) fun a l => { l with removed := a }]

end ReceiptLog

/-- The receipt of a transaction. -/
structure TxReceipt where
  blockHash : String
  blockNumber : String
  contractAddress : Option String
  cumulativeGasUsed : String
  sender : String
  gasUsed : String
  logs : List ReceiptLog
  logsBloom : String
  status : String
  receiver : String
  transactionHash : String
  transactionIndex : String
  kind : String
deriving DecidableEq

namespace TxReceipt

/-- The record of which no field was sent. -/
def blank : TxReceipt := ⟨"", "", none, "", "", "", [], "", "", "", "", "", ""⟩

def record : Record TxReceipt where
  name := "TxReceiptNotification"
  blank := blank
  fields := [
    .defaulted "blockHash" .string (·.blockHash) fun a r => { r with blockHash := a },
    .defaulted "blockNumber" .string (·.blockNumber) fun a r => { r with blockNumber := a },
    .defaulted "contractAddress" Codec.string.option (·.contractAddress)
      fun a r => { r with contractAddress := a },
    .defaulted "cumulativeGasUsed" .string (·.cumulativeGasUsed)
      fun a r => { r with cumulativeGasUsed := a },
    .defaulted "from" .string (·.sender) fun a r => { r with sender := a },
    .defaulted "gasUsed" .string (·.gasUsed) fun a r => { r with gasUsed := a },
    .defaulted "logs" ReceiptLog.record.codec.list (·.logs) fun a r => { r with logs := a },
    .defaulted "logsBloom" .string (·.logsBloom) fun a r => { r with logsBloom := a },
    .defaulted "status" .string (·.status) fun a r => { r with status := a },
    .defaulted "to" .string (·.receiver) fun a r => { r with receiver := a },
    .defaulted "transactionHash" .string (·.transactionHash)
      fun a r => { r with transactionHash := a },
    .defaulted "transactionIndex" .string (·.transactionIndex)
      fun a r => { r with transactionIndex := a },
    .defaulted "type" .string (·.kind) fun a r => { r with kind := a }]

end TxReceipt

end FeedLink
