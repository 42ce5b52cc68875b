import FeedLink.Client.Basic
import FeedLink.Config

/-!
# Sending transactions and bundles

Transactions go out one by one, to everybody or to block builders only, or together as a bundle.
-/

namespace FeedLink

open Json

/-- A transaction, and how it is sent. -/
structure SendTxParams where
  /-- The signed transaction, in hexadecimal. -/
  transaction : String
  /-- The network of the client where none is named. -/
  network : Option String
  nonceMonitoring : Bool
  validatorsOnly : Bool
  nextValidator : Bool
  /-- How many milliseconds the next validator is waited for. -/
  fallback : Option UInt32
  nodeValidation : Bool
deriving DecidableEq, Repr

def SendTxParams.toValue (p : SendTxParams) : Value :=
  .object ([("transaction", .str p.transaction)] ++
    Params.givenText "blockchain_network" p.network ++
    Params.raised "nonce_monitoring" p.nonceMonitoring ++
    Params.raised "validators_only" p.validatorsOnly ++
    Params.raised "next_validator" p.nextValidator ++
    Params.givenNumber "fallback" (p.fallback.map (·.toUInt64)) ++
    Params.raised "node_validation" p.nodeValidation)

/-- A transaction for block builders only. -/
structure PrivateTxParams where
  transaction : String
  /-- After how many seconds it becomes public. -/
  timeout : Option UInt32
  frontrunning : Bool
  builders : List (String × String)
deriving DecidableEq, Repr

def PrivateTxParams.toValue (p : PrivateTxParams) : Value :=
  .object ([("transaction", .str p.transaction)] ++
    Params.givenNumber "timeout" (p.timeout.map (·.toUInt64)) ++
    Params.raised "frontrunning" p.frontrunning ++
    Params.givenTable "mev_builders" p.builders)

/-- A bundle for Ethereum. -/
structure EthBundleParams where
  transactions : List String
  /-- The block that the bundle is meant for, in hexadecimal. -/
  blockNumber : String
  minTimestamp : Option UInt64
  maxTimestamp : Option UInt64
  revertingHashes : List String
  uuid : Option String
  frontrunning : Bool
  backrunMe : Bool
  backrunMeRewardAddress : Option String
  builders : List (String × String)
deriving DecidableEq, Repr

def EthBundleParams.toValue (p : EthBundleParams) : Value :=
  .object ([("transaction", Params.texts p.transactions), ("block_number", .str p.blockNumber)] ++
    Params.givenNumber "min_timestamp" p.minTimestamp ++
    Params.givenNumber "max_timestamp" p.maxTimestamp ++
    Params.givenTexts "reverting_hashes" p.revertingHashes ++
    Params.givenText "uuid" p.uuid ++
    Params.raised "frontrunning" p.frontrunning ++
    Params.raised "enable_backrunme" p.backrunMe ++
    Params.givenText "backrunme_reward_address" p.backrunMeRewardAddress ++
    Params.givenTable "mev_builders" p.builders)

/-- A bundle for BSC. -/
structure BscBundleParams where
  transactions : List String
  blockNumber : String
  minTimestamp : Option UInt64
  maxTimestamp : Option UInt64
  revertingHashes : List String
  uuid : String
  avoidMixedBundles : Bool
  originalSenderAccountId : String
  priorityFeeRefund : Bool
  refundRecipient : String
  blocksCount : Option UInt32
  droppingTxHashes : List String
  endOfBlock : Bool
  builders : List (String × String)
deriving DecidableEq, Repr

/-- The parameters of a bundle on a network. -/
def BscBundleParams.toValue (p : BscBundleParams) (network : String) : Value :=
  .object ([("transaction", Params.texts p.transactions), ("block_number", .str p.blockNumber)] ++
    Params.givenNumber "min_timestamp" p.minTimestamp ++
    Params.givenNumber "max_timestamp" p.maxTimestamp ++
    Params.givenTexts "reverting_hashes" p.revertingHashes ++
    [("uuid", .str p.uuid)] ++
    Params.raised "avoid_mixed_bundles" p.avoidMixedBundles ++
    [("original_sender_account_id", .str p.originalSenderAccountId),
      ("priority_fee_refund", .bool p.priorityFeeRefund),
      ("refund_recipient", .str p.refundRecipient)] ++
    Params.givenNumber "blocks_count" (p.blocksCount.map (·.toUInt64)) ++
    Params.givenTexts "dropping_tx_hashes" p.droppingTxHashes ++
    [("end_of_block", .bool p.endOfBlock)] ++
    Params.givenTable "mev_builders" p.builders ++
    [("blockchain_network", .str network)])

namespace Client

variable {σ : Type} (c : Client σ)

/-- Sends a transaction. On the standard network there is no next validator to send it to. -/
def sendTx (p : SendTxParams) : Exchange σ Value :=
  let network := p.network.getD c.network
  if p.nextValidator ∧ network = Config.standardNetwork then
    throw (.invalidParams "next_validator is not supported on Ethereum Mainnet")
  else c.request "blxr_tx" { p with network := some network }.toValue

/-- Sends a transaction to block builders only, which the cloud API offers on the standard
network. -/
def sendPrivateTx (p : PrivateTxParams) : Exchange σ Value :=
  if c.network ≠ Config.standardNetwork then
    throw (.unsupported ("private transactions on " ++ c.network))
  else do
    c.requireCloudApi "private transactions"
    c.request "blxr_private_tx" p.toValue

def sendEthBundle (p : EthBundleParams) : Exchange σ Value :=
  c.request "blxr_submit_bundle" p.toValue

def sendBscBundle (p : BscBundleParams) : Exchange σ Value :=
  c.request "blxr_submit_bundle" (p.toValue c.network)

/-- Asks what a bundle costs on BSC. -/
def bscBundlePrice : Exchange σ Value := c.request "bsc_get_bundle_price" .null

end Client

end FeedLink
