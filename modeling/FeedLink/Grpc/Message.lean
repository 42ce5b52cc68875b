import FeedLink.Grpc.Schema

/-!
# The messages of the gateway

The requests and replies of the streaming feeds and of sending a transaction, with their layouts.
-/

namespace FeedLink.Grpc

/-- Asks for a feed of transactions. -/
structure TxsRequest where
  filters : String
  includes : List String
deriving DecidableEq, Repr

/-- A transaction of a feed. -/
structure Tx where
  sender : List UInt8
  localRegion : Bool
  time : Int64
  rawTx : List UInt8
deriving DecidableEq

/-- A frame of a feed of transactions. -/
structure TxsReply where
  txs : List Tx
deriving DecidableEq

/-- Asks for a feed of blocks. -/
structure BlocksRequest where
  includes : List String
deriving DecidableEq, Repr

/-- The header of a block. -/
structure Header where
  parentHash : String
  sha3Uncles : String
  miner : String
  stateRoot : String
  transactionsRoot : String
  receiptsRoot : String
  logsBloom : String
  difficulty : String
  number : String
  gasLimit : String
  gasUsed : String
  timestamp : String
  extraData : String
  mixHash : String
  nonce : String
deriving DecidableEq

/-- Who will validate a later block. -/
structure Validator where
  blockHeight : String
  walletId : String
  accessible : String
deriving DecidableEq

/-- A transaction of a block. -/
structure RawTransaction where
  sender : List UInt8
  rawTx : List UInt8
deriving DecidableEq, Repr

/-- A frame of a feed of blocks. -/
structure BlocksReply where
  hash : String
  header : Option Header
  futureValidators : List Validator
  transactions : List RawTransaction
deriving DecidableEq

/-- Sends a transaction. -/
structure SendTxRequest where
  transaction : String
  nonceMonitoring : Bool
  nextValidator : Bool
deriving DecidableEq, Repr

/-- A transaction was sent. -/
structure SendTxReply where
  txHash : String
deriving DecidableEq, Repr

def TxsRequest.schema : Schema TxsRequest where
  blank := ⟨"", []⟩
  fields := [
    .string 1 (·.filters) fun a m => { m with filters := a },
    .strings 2 (·.includes) fun a m => { m with includes := a }]

def Tx.schema : Schema Tx where
  blank := ⟨[], false, 0, []⟩
  fields := [
    .bytes 1 (·.sender) fun a m => { m with sender := a },
    .bool 2 (·.localRegion) fun a m => { m with localRegion := a },
    .int64 3 (·.time) fun a m => { m with time := a },
    .bytes 4 (·.rawTx) fun a m => { m with rawTx := a }]

def TxsReply.schema : Schema TxsReply where
  blank := ⟨[]⟩
  fields := [.messages 1 Tx.schema (·.txs) fun a m => { m with txs := a }]

def BlocksRequest.schema : Schema BlocksRequest where
  blank := ⟨[]⟩
  fields := [.strings 1 (·.includes) fun a m => { m with includes := a }]

def Header.schema : Schema Header where
  blank := ⟨"", "", "", "", "", "", "", "", "", "", "", "", "", "", ""⟩
  fields := [
    .string 1 (·.parentHash) fun a h => { h with parentHash := a },
    .string 2 (·.sha3Uncles) fun a h => { h with sha3Uncles := a },
    .string 3 (·.miner) fun a h => { h with miner := a },
    .string 4 (·.stateRoot) fun a h => { h with stateRoot := a },
    .string 5 (·.transactionsRoot) fun a h => { h with transactionsRoot := a },
    .string 6 (·.receiptsRoot) fun a h => { h with receiptsRoot := a },
    .string 7 (·.logsBloom) fun a h => { h with logsBloom := a },
    .string 8 (·.difficulty) fun a h => { h with difficulty := a },
    .string 9 (·.number) fun a h => { h with number := a },
    .string 10 (·.gasLimit) fun a h => { h with gasLimit := a },
    .string 11 (·.gasUsed) fun a h => { h with gasUsed := a },
    .string 12 (·.timestamp) fun a h => { h with timestamp := a },
    .string 13 (·.extraData) fun a h => { h with extraData := a },
    .string 14 (·.mixHash) fun a h => { h with mixHash := a },
    .string 15 (·.nonce) fun a h => { h with nonce := a }]

def Validator.schema : Schema Validator where
  blank := ⟨"", "", ""⟩
  fields := [
    .string 1 (·.blockHeight) fun a v => { v with blockHeight := a },
    .string 2 (·.walletId) fun a v => { v with walletId := a },
    .string 3 (·.accessible) fun a v => { v with accessible := a }]

def RawTransaction.schema : Schema RawTransaction where
  blank := ⟨[], []⟩
  fields := [
    .bytes 1 (·.sender) fun a m => { m with sender := a },
    .bytes 2 (·.rawTx) fun a m => { m with rawTx := a }]

def BlocksReply.schema : Schema BlocksReply where
  blank := ⟨"", none, [], []⟩
  fields := [
    .string 1 (·.hash) fun a m => { m with hash := a },
    .message 2 Header.schema (·.header) fun a m => { m with header := a },
    .messages 3 Validator.schema (·.futureValidators) fun a m => { m with futureValidators := a },
    .messages 4 RawTransaction.schema (·.transactions) fun a m => { m with transactions := a }]

def SendTxRequest.schema : Schema SendTxRequest where
  blank := ⟨"", false, false⟩
  fields := [
    .string 1 (·.transaction) fun a m => { m with transaction := a },
    .bool 2 (·.nonceMonitoring) fun a m => { m with nonceMonitoring := a },
    .bool 3 (·.nextValidator) fun a m => { m with nextValidator := a }]

def SendTxReply.schema : Schema SendTxReply where
  blank := ⟨""⟩
  fields := [.string 1 (·.txHash) fun a m => { m with txHash := a }]

end FeedLink.Grpc
