import FeedLink.Json.Codec

/-!
# Notifications about blocks

The payloads of the feeds of new blocks, and the answers to the calls that a caller wants made on
every block. Every field may be missing.
-/

namespace FeedLink

open Json

/-- The header of a block. -/
structure BlockHeader where
  parentHash : String
  sha3Uncles : String
  miner : String
  stateRoot : String
  transactionsRoot : String
  receiptsRoot : String
  logsBloom : String
  difficulty : String
  number : String
  gasLimit : String
  gasUsed : String
  timestamp : String
  extraData : String
  mixHash : String
  nonce : String
deriving DecidableEq

namespace BlockHeader

/-- The record of which no field was sent. -/
def blank : BlockHeader := ⟨"", "", "", "", "", "", "", "", "", "", "", "", "", "", ""⟩

def record : Record BlockHeader where
  name := "BlockHeader"
  blank := blank
  fields := [
    .defaulted "parentHash" .string (·.parentHash) fun a h => { h with parentHash := a },
    .defaulted "sha3Uncles" .string (·.sha3Uncles) fun a h => { h with sha3Uncles := a },
    .defaulted "miner" .string (·.miner) fun a h => { h with miner := a },
    .defaulted "stateRoot" .string (·.stateRoot) fun a h => { h with stateRoot := a },
    .defaulted "transactionsRoot" .string (·.transactionsRoot)
      fun a h => { h with transactionsRoot := a },
    .defaulted "receiptsRoot" .string (·.receiptsRoot) fun a h => { h with receiptsRoot := a },
    .defaulted "logsBloom" .string (·.logsBloom) fun a h => { h with logsBloom := a },
    .defaulted "difficulty" .string (·.difficulty) fun a h => { h with difficulty := a },
    .defaulted "number" .string (·.number) fun a h => { h with number := a },
    .defaulted "gasLimit" .string (·.gasLimit) fun a h => { h with gasLimit := a },
    .defaulted "gasUsed" .string (·.gasUsed) fun a h => { h with gasUsed := a },
    .defaulted "timestamp" .string (·.timestamp) fun a h => { h with timestamp := a },
    .defaulted "extraData" .string (·.extraData) fun a h => { h with extraData := a },
    .defaulted "mixHash" .string (·.mixHash) fun a h => { h with mixHash := a },
    .defaulted "nonce" .string (·.nonce) fun a h => { h with nonce := a }]

end BlockHeader

/-- Who will validate a later block. -/
structure FutureValidator where
  blockHeight : String
  walletId : String
  accessible : String
deriving DecidableEq

namespace FutureValidator

/-- The record of which no field was sent. -/
def blank : FutureValidator := ⟨"", "", ""⟩

def record : Record FutureValidator where
  name := "FutureValidatorInfo"
  blank := blank
  fields := [
    .defaulted "block_height" .string (·.blockHeight) fun a v => { v with blockHeight := a },
    .defaulted "wallet_id" .string (·.walletId) fun a v => { v with walletId := a },
    .defaulted "accessible" .string (·.accessible) fun a v => { v with accessible := a }]

end FutureValidator

/-- A transaction of a block: a hash from a WebSocket, sender and contents from gRPC. -/
structure BlockTransaction where
  txHash : String
  sender : String
  rawTx : String
deriving DecidableEq

namespace BlockTransaction

/-- The record of which no field was sent. -/
def blank : BlockTransaction := ⟨"", "", ""⟩

def record : Record BlockTransaction where
  name := "BlockTransaction"
  blank := blank
  fields := [
    .defaulted "txHash" .string (·.txHash) fun a t => { t with txHash := a },
    .defaulted "from" .string (·.sender) fun a t => { t with sender := a },
    .defaulted "rawTx" .string (·.rawTx) fun a t => { t with rawTx := a }]

end BlockTransaction

/-- A new block. -/
structure Block where
  hash : String
  header : Option BlockHeader
  futureValidators : List FutureValidator
  transactions : List BlockTransaction
deriving DecidableEq

namespace Block

/-- The record of which no field was sent. -/
def blank : Block := ⟨"", none, [], []⟩

def record : Record Block where
  name := "BlockNotification"
  blank := blank
  fields := [
    .defaulted "hash" .string (·.hash) fun a b => { b with hash := a },
    .defaulted "header" BlockHeader.record.codec.option (·.header)
      fun a b => { b with header := a },
    .defaulted "future_validator_info" FutureValidator.record.codec.list (·.futureValidators)
      fun a b => { b with futureValidators := a },
    .defaulted "transactions" BlockTransaction.record.codec.list (·.transactions)
      fun a b => { b with transactions := a }]

end Block

/-- The answer to a call that was made on a block. -/
structure OnBlock where
  name : String
  response : String
  blockHeight : String
  tag : String
deriving DecidableEq

namespace OnBlock

/-- The record of which no field was sent. -/
def blank : OnBlock := ⟨"", "", "", ""⟩

def record : Record OnBlock where
  name := "OnBlockNotification"
  blank := blank
  fields := [
    .defaulted "name" .string (·.name) fun a n => { n with name := a },
    .defaulted "response" .string (·.response) fun a n => { n with response := a },
    .defaulted "block_height" .string (·.blockHeight) fun a n => { n with blockHeight := a },
    .defaulted "tag" .string (·.tag) fun a n => { n with tag := a }]

end OnBlock

end FeedLink
