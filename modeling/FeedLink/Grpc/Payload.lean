import FeedLink.Grpc.Message
import FeedLink.Json.Codec

/-!
# Between JSON and the messages of the gateway

Parameters come as JSON, in the form in which a WebSocket would send them, and are turned into
requests. Frames are turned into the JSON payloads that a WebSocket would bring, so that one set of
decoders serves both. Bytes become text, with U+FFFD for what is not UTF-8.
-/

namespace FeedLink.Grpc

open Json

/-- The parameters of a feed. -/
structure FeedParams where
  included : List String
  filters : String
deriving DecidableEq, Repr

def FeedParams.record : Record FeedParams where
  name := "FeedParams"
  blank := ⟨[], ""⟩
  fields := [
    .defaulted "include" Codec.string.list (·.included) fun a p => { p with included := a },
    .defaulted "filters" .string (·.filters) fun a p => { p with filters := a }]

def TxsRequest.ofParams (params : Value) : Except DecodeError TxsRequest :=
  (FeedParams.record.codec.ofValue params).map fun p => ⟨p.filters, p.included⟩

def BlocksRequest.ofParams (params : Value) : Except DecodeError BlocksRequest :=
  (FeedParams.record.codec.ofValue params).map fun p => ⟨p.included⟩

/-- The parameters with which a transaction is sent. -/
def SendTxRequest.record : Record SendTxRequest where
  name := "SendTx"
  blank := ⟨"", false, false⟩
  fields := [
    .required "transaction" .string (·.transaction) fun a m => { m with transaction := a },
    .defaulted "nonce_monitoring" .bool (·.nonceMonitoring)
      fun a m => { m with nonceMonitoring := a },
    .defaulted "next_validator" .bool (·.nextValidator) fun a m => { m with nextValidator := a }]

def SendTxRequest.ofParams (params : Value) : Except DecodeError SendTxRequest :=
  record.codec.ofValue params

/-- The answer to sending a transaction. -/
def SendTxReply.toValue (m : SendTxReply) : Value := .object [("tx_hash", .str m.txHash)]

/-- The payload of one transaction of a feed. -/
def Tx.toValue (tx : Tx) : Value :=
  .object [
    ("txContents", .object [("from", .str (Utf8.lossyText tx.sender))]),
    ("localRegion", .bool tx.localRegion),
    ("time", .str (String.ofList (Number.renderInt tx.time.toInt))),
    ("rawTx", .str (Utf8.lossyText tx.rawTx))]

/-- One payload for each transaction, in the order of the frame. -/
def TxsReply.payloads (m : TxsReply) : List Value := m.txs.map Tx.toValue

def Header.toValue (h : Header) : Value :=
  .object [
    ("parentHash", .str h.parentHash), ("sha3Uncles", .str h.sha3Uncles), ("miner", .str h.miner),
    ("stateRoot", .str h.stateRoot), ("transactionsRoot", .str h.transactionsRoot),
    ("receiptsRoot", .str h.receiptsRoot), ("logsBloom", .str h.logsBloom),
    ("difficulty", .str h.difficulty), ("number", .str h.number), ("gasLimit", .str h.gasLimit),
    ("gasUsed", .str h.gasUsed), ("timestamp", .str h.timestamp), ("extraData", .str h.extraData),
    ("mixHash", .str h.mixHash), ("nonce", .str h.nonce)]

def Validator.toValue (v : Validator) : Value :=
  .object [
    ("block_height", .str v.blockHeight), ("wallet_id", .str v.walletId),
    ("accessible", .str v.accessible)]

def RawTransaction.toValue (t : RawTransaction) : Value :=
  .object [("from", .str (Utf8.lossyText t.sender)), ("rawTx", .str (Utf8.lossyText t.rawTx))]

/-- The payload of a block; without a header it has null there. -/
def BlocksReply.payload (m : BlocksReply) : Value :=
  .object [
    ("hash", .str m.hash),
    ("header", (m.header.map Header.toValue).getD .null),
    ("future_validator_info", .arr (m.futureValidators.map Validator.toValue)),
    ("transactions", .arr (m.transactions.map RawTransaction.toValue))]

end FeedLink.Grpc
