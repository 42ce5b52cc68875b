import FeedLink.Client.OnBlockCall
import FeedLink.Client.Subscriptions
import FeedLink.Client.Transactions
import FeedLink.Proofs.Base64
import FeedLink.Proofs.Client.Params
import FeedLink.Proofs.Client.Recording

/-!
# What the operations of a client let through

A client has an operation for each of ten feeds and eleven requests. An operation has rules, which
look at the kind of the handler, the network, the parameters and the subscription to the status of
transactions, and it makes one call or two. This file has a table of the rules, a table of the calls
and a table of what their parameters say, key by key, and shows for every operation that it does
what its rows say: nothing reaches the handler where a rule is broken, and otherwise the calls do,
in their order and with these parameters.

Some of the parameters are looked at once more on their own. The items to include are those that the
caller named, or the default of the feed where the caller named none, and a text that stands for
bytes is read back as these bytes by a reader of standard Base64.

## Main definitions

* `TypedCall` — an operation of a client and its parameters
* `TypedCall.rules` — the rules of an operation, in the order in which they are checked
* `TypedCall.fields` — what the parameters of an operation say, key by key
* `TypedCall.calls` — the calls that an operation makes
* `TypedCall.items?`, `TypedCall.bytes` — the items and the bytes among its parameters

## Main results

* `TypedCall.sent_fields` — a client builds the parameters that the table tells
* `TypedCall.obeys` — an operation has its rules, and then makes its calls
* `TypedCall.field?_calls` — what the handler finds under each key
* `TypedCall.include_calls` — the items to include reach the handler, or the default of the feed
* `TypedCall.bytes_calls` — bytes reach the handler as standard Base64
* `TypedCall.perform_recording` — all of it at once
-/

namespace FeedLink

open Json

/-! ### Rules -/

namespace Rule

/-- Only a handler for the cloud API can do it. -/
def cloudOnly (kind : EndpointKind) (what : String) : Rule :=
  ⟨kind = .cloudApi,
    .unsupported (what ++ " on a " ++ kind.display ++ " handler (cloud API only)"), .unsupported _⟩

/-- Only a handler for a gateway can do it. -/
def gatewayOnly (kind : EndpointKind) (what : String) : Rule :=
  ⟨kind = .gatewaySocket || kind = .gatewayGrpc,
    .unsupported (what ++ " on a " ++ kind.display ++ " handler (gateway only)"), .unsupported _⟩

/-- Only a handler for the WebSocket of a gateway can do it. -/
def gatewaySocketOnly (kind : EndpointKind) (what : String) : Rule :=
  ⟨kind = .gatewaySocket,
    .unsupported (what ++ " on a " ++ kind.display ++ " handler (gateway-ws only)"), .unsupported _⟩

/-- It is only there on the standard network. -/
def mainnetOnly (network what : String) : Rule :=
  ⟨network = "Mainnet", .unsupported (what ++ " on " ++ network), .unsupported _⟩

/-- A field may not be empty. -/
def nonempty (field : String) (isEmpty : Bool) : Rule :=
  ⟨!isEmpty, .invalidParams (field ++ " is required"), .invalidParams _⟩

/-- There must be a call to evaluate. -/
def someCall (calls : List OnBlockCall) : Rule :=
  ⟨!calls.isEmpty, .invalidParams "at least one call param is required", .invalidParams _⟩

/-- The standard network has no next validator. -/
def noNextValidator (network : String) (nextValidator : Bool) : Rule :=
  ⟨!(nextValidator && network = "Mainnet"),
    .invalidParams "next_validator is not supported on Ethereum Mainnet", .invalidParams _⟩

/-- The status of transactions must be subscribed. -/
def statusSubscribed (id : Option SubscriptionId) : Rule :=
  ⟨id.isSome, .notSubscribed .txStatus, .notSubscribed _⟩

/-- The words of a refusal name the only kind that can do it. -/
theorem refusal_words (what display only : String) :
    what ++ " on a " ++ display ++ " handler (" ++ only ++ " only)" =
      what ++ " on a " ++ display ++ (" handler (" ++ only ++ " only)") := by
  simp only [String.append_assoc]

/-- The rules of whatever is signed. -/
def signed (s : Signed) : List Rule :=
  [nonempty "hash" s.hash.isEmpty, nonempty "signature" s.signature.isEmpty]

end Rule

/-! ### The operations -/

/-- An operation of a client and its parameters. -/
inductive TypedCall where
  | onNewTxs (p : NewTxParams) (callback : Callback)
  | onPendingTxs (p : PendingTxParams) (callback : Callback)
  | onNewBlocks (p : ItemParams) (callback : Callback)
  | onBdnBlocks (p : ItemParams) (callback : Callback)
  | onTxReceipts (p : ItemParams) (callback : Callback)
  | onEthOnBlock (p : OnBlockParams) (callback : Callback)
  | onTxStatus (transactions : List String) (callback : Callback)
  | onUserIntents (p : IntentsParams) (callback : Callback)
  | onIntentSolutions (p : IntentSolutionsParams) (callback : Callback)
  | onQuotes (p : QuotesParams) (callback : Callback)
  | sendTx (p : SendTxParams)
  | sendPrivateTx (p : PrivateTxParams)
  | sendEthBundle (p : EthBundleParams)
  | sendBscBundle (p : BscBundleParams)
  | bscBundlePrice
  | monitorTxs (transactions : List String)
  | stopMonitoringTxs (transactions hashes : List String)
  | submitIntent (p : IntentSubmission)
  | submitIntentSolution (p : SolutionSubmission)
  | intentSolutions (q : SolutionsQuery)
  | submitQuote (p : QuoteSubmission)

namespace TypedCall

/-- Carries out an operation. One that only subscribes, or only follows transactions, has nothing to
return. -/
def perform {σ : Type} (c : Client σ) : TypedCall → Exchange σ (Option Value)
  | .onNewTxs p callback => do c.onNewTxs p callback; return none
  | .onPendingTxs p callback => do c.onPendingTxs p callback; return none
  | .onNewBlocks p callback => do c.onNewBlocks p callback; return none
  | .onBdnBlocks p callback => do c.onBdnBlocks p callback; return none
  | .onTxReceipts p callback => do c.onTxReceipts p callback; return none
  | .onEthOnBlock p callback => do c.onEthOnBlock p callback; return none
  | .onTxStatus transactions callback => do c.onTxStatus transactions callback; return none
  | .onUserIntents p callback => do c.onUserIntents p callback; return none
  | .onIntentSolutions p callback => do c.onIntentSolutions p callback; return none
  | .onQuotes p callback => do c.onQuotes p callback; return none
  | .sendTx p => do return some (← c.sendTx p)
  | .sendPrivateTx p => do return some (← c.sendPrivateTx p)
  | .sendEthBundle p => do return some (← c.sendEthBundle p)
  | .sendBscBundle p => do return some (← c.sendBscBundle p)
  | .bscBundlePrice => do return some (← c.bscBundlePrice)
  | .monitorTxs transactions => do c.monitorTxs transactions; return none
  | .stopMonitoringTxs transactions hashes => do
    c.stopMonitoringTxs transactions hashes; return none
  | .submitIntent p => do return some (← c.submitIntent p)
  | .submitIntentSolution p => do return some (← c.submitIntentSolution p)
  | .intentSolutions q => do return some (← c.intentSolutions q)
  | .submitQuote p => do return some (← c.submitQuote p)

/-- The rules of an operation, in the order in which they are checked: on a kind of handler, on a
network, and with or without a subscription to the status of transactions. -/
def rules (kind : EndpointKind) (network : String) (status : Option SubscriptionId) :
    TypedCall → List Rule
  | .onNewTxs _ _ | .onPendingTxs _ _ | .onNewBlocks _ _ | .onBdnBlocks _ _
  | .onTxReceipts _ _ => []
  | .onEthOnBlock p _ => [.someCall p.calls]
  | .onTxStatus _ _ => [.cloudOnly kind "transaction status feed"]
  | .onUserIntents p _ =>
    [.gatewayOnly kind "intents feed", .nonempty "solver address" p.solver.isEmpty] ++
      Rule.signed p.signed
  | .onIntentSolutions p _ =>
    [.gatewayOnly kind "intent solutions feed",
      .nonempty "dapp address" p.application.isEmpty] ++ Rule.signed p.signed
  | .onQuotes p _ =>
    [.gatewayOnly kind "quotes feed", .nonempty "dapp address" p.application.isEmpty]
  | .sendTx p => [.noNextValidator (p.network.getD network) p.nextValidator]
  | .sendPrivateTx _ =>
    [.mainnetOnly network "private transactions", .cloudOnly kind "private transactions"]
  | .sendEthBundle _ | .sendBscBundle _ | .bscBundlePrice => []
  | .monitorTxs _ | .stopMonitoringTxs _ _ =>
    [.cloudOnly kind "transaction monitoring", .statusSubscribed status]
  | .submitIntent p =>
    [.gatewayOnly kind "intent submission", .nonempty "dapp address" p.application.isEmpty,
      .nonempty "sender address" p.sender.isEmpty, .nonempty "intent" p.intent.isEmpty] ++
      Rule.signed p.signed
  | .submitIntentSolution p =>
    [.gatewayOnly kind "intent solution submission",
      .nonempty "solver address" p.solver.isEmpty, .nonempty "intent id" p.intentId.isEmpty,
      .nonempty "intent solution" p.solution.isEmpty] ++ Rule.signed p.signed
  | .intentSolutions q =>
    [.gatewaySocketOnly kind "intent solution lookup",
      .nonempty "intent id" q.intentId.isEmpty,
      .nonempty "dapp or sender address" q.asker.isEmpty] ++ Rule.signed q.signed
  | .submitQuote p =>
    [.gatewayOnly kind "quote submission", .nonempty "dapp address" p.application.isEmpty,
      .nonempty "solver address" p.solver.isEmpty, .nonempty "quote" p.quote.isEmpty] ++
      Rule.signed p.signed

/-- The items that the caller wants, or a default where it wants none. -/
def orDefault (wanted default : List String) : List String :=
  if wanted = [] then default else wanted

theorem orDefault_eq (wanted default : List String) :
    orDefault wanted default = Params.includeOr wanted default := by
  rw [orDefault, Params.includeOr]
  simp only [List.isEmpty_iff]

/-- The id under which a recording handler holds the status of transactions. -/
def statusId : String := "sub-transactionStatus"

/-! ### Parameters and calls -/

/-- A number of 32 bits that is there if it was set. -/
def number32? (n : Option UInt32) : Option Value := (n.map (·.toUInt64)).map .ofUInt64

/-- A hash and the signature over it. -/
def signedFields (s : Signed) : List (String × Option Value) :=
  [("hash", some (Params.bytes s.hash)), ("signature", some (Params.bytes s.signature))]

/-- One call that is evaluated on every block, with its arguments beside its fixed fields. -/
def onBlockFields (call : OnBlockCall) : List (String × Value) :=
  Params.present [("method", some (.str call.method)), ("tag", call.tag.map .str),
    ("name", call.name.map .str)] ++ call.args.map fun a => (a.1, .str a.2)

/-- What a request to follow transactions says. -/
def monitoringFields (transactions : List String) : List (String × Option Value) :=
  [("transactions", some (Params.texts transactions)), ("subscription_id", some (.str statusId))]

/-- What the parameters of an operation say under which key. A field that the caller has left out is
not there. -/
def fields (network : String) : TypedCall → List (String × Option Value)
  | .onNewTxs p _ => [
    ("include", some (Params.texts (orDefault p.items ["tx_hash"]))),
    ("filters", p.filters.map .str),
    ("blockchain_network", p.network.map .str),
    ("project", p.project.map .str)]
  | .onPendingTxs p _ => [
    ("include", some (Params.texts (orDefault p.items ["tx_hash"]))),
    ("duplicates", some (.bool p.duplicates)),
    ("filters", p.filters.map .str),
    ("blockchain_network", p.network.map .str),
    ("project", p.project.map .str)]
  | .onNewBlocks p _ => [("include", some (Params.texts (orDefault p.items ["hash", "header"])))]
  | .onBdnBlocks p _ => [("include", some (Params.texts (orDefault p.items ["hash"])))]
  | .onTxReceipts p _ => [("include", some (Params.texts (orDefault p.items ["block_hash"])))]
  | .onEthOnBlock p _ => [
    ("include", some (Params.texts p.items)),
    ("call-params", some (.arr (p.calls.map fun call => .object (onBlockFields call))))]
  | .onTxStatus _ _ => [("include", some (Params.texts ["tx_hash", "status"]))]
  | .onUserIntents p _ =>
    [("solver_address", some (.str p.solver))] ++ signedFields p.signed ++
      [("filters",
        ((p.application.filter fun a => !a.isEmpty).map ("dapp_address = " ++ ·)).map .str)]
  | .onIntentSolutions p _ =>
    [("dapp_address", some (.str p.application))] ++ signedFields p.signed
  | .onQuotes p _ => [("dapp_address", some (.str p.application))]
  | .sendTx p => [
    ("transaction", some (.str p.transaction)),
    ("blockchain_network", some (.str (p.network.getD network))),
    ("nonce_monitoring", Params.flag? p.nonceMonitoring),
    ("validators_only", Params.flag? p.validatorsOnly),
    ("next_validator", Params.flag? p.nextValidator),
    ("fallback", number32? p.fallback),
    ("node_validation", Params.flag? p.nodeValidation)]
  | .sendPrivateTx p => [
    ("transaction", some (.str p.transaction)),
    ("timeout", number32? p.timeout),
    ("frontrunning", Params.flag? p.frontrunning),
    ("mev_builders", Params.keyed? p.builders)]
  | .sendEthBundle p => [
    ("transaction", some (Params.texts p.transactions)),
    ("block_number", some (.str p.blockNumber)),
    ("min_timestamp", p.minTimestamp.map .ofUInt64),
    ("max_timestamp", p.maxTimestamp.map .ofUInt64),
    ("reverting_hashes", Params.texts? p.revertingHashes),
    ("uuid", p.uuid.map .str),
    ("frontrunning", Params.flag? p.frontrunning),
    ("enable_backrunme", Params.flag? p.backrunMe),
    ("backrunme_reward_address", p.backrunMeRewardAddress.map .str),
    ("mev_builders", Params.keyed? p.builders)]
  | .sendBscBundle p => [
    ("transaction", some (Params.texts p.transactions)),
    ("block_number", some (.str p.blockNumber)),
    ("min_timestamp", p.minTimestamp.map .ofUInt64),
    ("max_timestamp", p.maxTimestamp.map .ofUInt64),
    ("reverting_hashes", Params.texts? p.revertingHashes),
    ("uuid", some (.str p.uuid)),
    ("avoid_mixed_bundles", Params.flag? p.avoidMixedBundles),
    ("original_sender_account_id", some (.str p.originalSenderAccountId)),
    ("priority_fee_refund", some (.bool p.priorityFeeRefund)),
    ("refund_recipient", some (.str p.refundRecipient)),
    ("blocks_count", number32? p.blocksCount),
    ("dropping_tx_hashes", Params.texts? p.droppingTxHashes),
    ("end_of_block", some (.bool p.endOfBlock)),
    ("mev_builders", Params.keyed? p.builders),
    ("blockchain_network", some (.str network))]
  | .bscBundlePrice => []
  | .monitorTxs transactions => monitoringFields transactions
  | .stopMonitoringTxs transactions hashes => [
    ("transactions", some (Params.texts transactions)),
    ("transaction_hash", some (Params.texts hashes)),
    ("subscription_id", some (.str statusId))]
  | .submitIntent p => [
    ("dapp_address", some (.str p.application)),
    ("sender_address", some (.str p.sender)),
    ("intent", some (Params.bytes p.intent))] ++ signedFields p.signed
  | .submitIntentSolution p => [
    ("solver_address", some (.str p.solver)),
    ("intent_id", some (.str p.intentId)),
    ("intent_solution", some (Params.bytes p.solution))] ++ signedFields p.signed
  | .intentSolutions q => [
    ("dapp_or_sender_address", some (.str q.asker)),
    ("intent_id", some (.str q.intentId))] ++ signedFields q.signed
  | .submitQuote p => [
    ("dapp_address", some (.str p.application)),
    ("solver_address", some (.str p.solver)),
    ("quote", some (Params.bytes p.quote))] ++ signedFields p.signed

/-- The request to follow transactions. -/
def startMonitoring (transactions : List String) : Asked :=
  .request "start_monitor_transaction" (Params.sent (monitoringFields transactions))

/-- The calls of an operation, the first of them with these parameters. -/
def callsWith (params : Value) : TypedCall → List Asked
  | .onNewTxs _ _ => [.subscribe ⟨"newTxs"⟩ params]
  | .onPendingTxs _ _ => [.subscribe ⟨"pendingTxs"⟩ params]
  | .onNewBlocks _ _ => [.subscribe ⟨"newBlocks"⟩ params]
  | .onBdnBlocks _ _ => [.subscribe ⟨"bdnBlocks"⟩ params]
  | .onTxReceipts _ _ => [.subscribe ⟨"txReceipts"⟩ params]
  | .onEthOnBlock _ _ => [.subscribe ⟨"ethOnBlock"⟩ params]
  | .onTxStatus transactions _ =>
    .subscribe ⟨"transactionStatus"⟩ params ::
      if transactions = [] then [] else [startMonitoring transactions]
  | .onUserIntents _ _ => [.subscribe ⟨"userIntentFeed"⟩ params]
  | .onIntentSolutions _ _ => [.subscribe ⟨"userIntentSolutionsFeed"⟩ params]
  | .onQuotes _ _ => [.subscribe ⟨"quotesFeed"⟩ params]
  | .sendTx _ => [.request "blxr_tx" params]
  | .sendPrivateTx _ => [.request "blxr_private_tx" params]
  | .sendEthBundle _ | .sendBscBundle _ => [.request "blxr_submit_bundle" params]
  | .bscBundlePrice => [.request "bsc_get_bundle_price" .null]
  | .monitorTxs transactions => [startMonitoring transactions]
  | .stopMonitoringTxs _ _ =>
    [.request "stop_monitor_transaction" params, .unsubscribe ⟨"transactionStatus"⟩]
  | .submitIntent _ => [.request "blxr_submit_intent" params]
  | .submitIntentSolution _ => [.request "blxr_submit_intent_solution" params]
  | .intentSolutions _ => [.request "blxr_get_intent_solutions" params]
  | .submitQuote _ => [.request "blxr_submit_quote" params]

/-- The calls that an operation makes if its rules are kept. -/
def calls (network : String) (call : TypedCall) : List Asked :=
  call.callsWith (Params.sent (call.fields network))

/-- The items to include that a subscription tells the handler, if it tells any. -/
def items? : TypedCall → Option (List String)
  | .onNewTxs p _ => some (orDefault p.items ["tx_hash"])
  | .onPendingTxs p _ => some (orDefault p.items ["tx_hash"])
  | .onNewBlocks p _ => some (orDefault p.items ["hash", "header"])
  | .onBdnBlocks p _ => some (orDefault p.items ["hash"])
  | .onTxReceipts p _ => some (orDefault p.items ["block_hash"])
  | .onEthOnBlock p _ => some p.items
  | .onTxStatus _ _ => some ["tx_hash", "status"]
  | _ => none

/-- The bytes among the parameters, under the keys under which they are sent. -/
def bytes : TypedCall → List (String × List UInt8)
  | .onUserIntents p _ => signed p.signed
  | .onIntentSolutions p _ => signed p.signed
  | .submitIntent p => ("intent", p.intent) :: signed p.signed
  | .submitIntentSolution p => ("intent_solution", p.solution) :: signed p.signed
  | .intentSolutions q => signed q.signed
  | .submitQuote p => ("quote", p.quote) :: signed p.signed
  | _ => []
where
  signed (s : Signed) : List (String × List UInt8) :=
    [("hash", s.hash), ("signature", s.signature)]

end TypedCall

/-- The parameters with which a handler was asked. -/
def Asked.params : Asked → Value
  | .subscribe _ params | .request _ params => params
  | .unsubscribe _ | .close => .null

/-! ### The parameters as they are built -/

namespace TypedCall

/-- The parameters of an operation as a client builds them. -/
def params (network : String) : TypedCall → Value
  | .onNewTxs p _ => { p with items := Params.includeOr p.items ["tx_hash"] }.toValue
  | .onPendingTxs p _ => { p with items := Params.includeOr p.items ["tx_hash"] }.toValue
  | .onNewBlocks p _ => { p with items := Params.includeOr p.items ["hash", "header"] }.toValue
  | .onBdnBlocks p _ => { p with items := Params.includeOr p.items ["hash"] }.toValue
  | .onTxReceipts p _ => { p with items := Params.includeOr p.items ["block_hash"] }.toValue
  | .onEthOnBlock p _ => p.toValue
  | .onTxStatus _ _ => .object [("include", Params.texts ["tx_hash", "status"])]
  | .onUserIntents p _ => p.toValue
  | .onIntentSolutions p _ => p.toValue
  | .onQuotes p _ => p.toValue
  | .sendTx p => { p with network := some (p.network.getD network) }.toValue
  | .sendPrivateTx p => p.toValue
  | .sendEthBundle p => p.toValue
  | .sendBscBundle p => p.toValue network
  | .bscBundlePrice => .object []
  | .monitorTxs transactions => .object [
    ("transactions", Params.texts transactions), ("subscription_id", .str statusId)]
  | .stopMonitoringTxs transactions hashes => .object [
    ("transactions", Params.texts transactions), ("transaction_hash", Params.texts hashes),
    ("subscription_id", .str statusId)]
  | .submitIntent p => p.toValue
  | .submitIntentSolution p => p.toValue
  | .intentSolutions q => q.toValue
  | .submitQuote p => p.toValue

theorem object_onBlockFields (call : OnBlockCall) :
    Value.object (onBlockFields call) = call.toValue := by
  simp only [onBlockFields, OnBlockCall.toValue, OnBlockCall.fields, Params.present_cons,
    Params.present_nil, Params.given_some, Params.given_text, List.append_nil, List.append_assoc]

/-- **The parameters are those that the table tells.** -/
theorem sent_fields (call : TypedCall) (network : String) :
    Params.sent (call.fields network) = call.params network := by
  cases call <;>
    simp only [Params.sent, fields, params, signedFields, monitoringFields, number32?,
      object_onBlockFields, orDefault_eq, Params.present_cons, Params.present_nil,
      Params.given_some, Params.givenText_some, Params.given_flag?, Params.given_texts?,
      Params.given_keyed?, Params.given_text, Params.given_number, List.cons_append,
      List.nil_append, List.append_nil, List.append_assoc, NewTxParams.toValue,
      PendingTxParams.toValue, ItemParams.toValue, OnBlockParams.toValue, IntentsParams.toValue,
      IntentSolutionsParams.toValue, QuotesParams.toValue, SendTxParams.toValue,
      PrivateTxParams.toValue, EthBundleParams.toValue, BscBundleParams.toValue,
      IntentSubmission.toValue, SolutionSubmission.toValue, SolutionsQuery.toValue,
      QuoteSubmission.toValue, Signed.fields]

end TypedCall

/-! ### Every operation does what its rows say -/

namespace Recorder

variable {α : Type} {rules : List Rule} {steps : List Asked} {x : Exchange Recorder α}
  {r : Recorder} {rule : Rule} {c : Client Recorder}

theorem Obeys.ite_throw {p : Prop} [Decidable p] (hobeys : Obeys rules steps x r)
    (hkept : rule.kept = !decide p) :
    Obeys (rule :: rules) steps (if p then throw rule.refusal else x) r :=
  hobeys.check.congr (Rule.run_ite_throw hkept)

theorem Obeys.signed (s : Signed) (hobeys : Obeys rules steps x r) :
    Obeys (Rule.signed s ++ rules) steps (Client.requireSigned s >>= fun _ => x) r := by
  rw [Client.requireSigned, bind_assoc]
  exact hobeys.check.check

/-- The id of the status of transactions is looked up, and an operation goes on with it. -/
theorem Obeys.status {f : SubscriptionId → Exchange Recorder α}
    (hobeys : ∀ id, c.subscriptionId? r .txStatus = some id → Obeys rules steps (f id) r) :
    Obeys (.statusSubscribed (c.subscriptionId? r .txStatus) :: rules) steps
      (c.statusSubscription >>= f) r := by
  cases hid : c.subscriptionId? r .txStatus with
  | none =>
    have hrun := Client.run_statusSubscription_of_none hid
    exact ⟨fun hbroken => Option.some.inj hbroken ▸ Exchange.run_bind_of_error hrun, nofun⟩
  | some id =>
    have hbehind : Obeys (.statusSubscribed (some id) :: rules) steps
        (Rule.check (.statusSubscribed (some id)) >>= fun _ => f id) r := (hobeys id hid).check
    refine hbehind.congr ?_
    rw [Exchange.run_bind_of_ok (Client.run_statusSubscription_of_some hid), Rule.run_check_bind]
    rfl

end Recorder

namespace TypedCall

open Recorder

section Operations

variable {rules : List Rule} {steps : List Asked} {kind : EndpointKind} {network : String}
  {r : Recorder} {α : Type} {x : Exchange Recorder α}

/-- A client of a recording handler. -/
def recording (kind : EndpointKind) (network : String) : Client Recorder :=
  ⟨Recorder.handler kind, network⟩

theorem obeys_requireCloudApi (hobeys : kind = .cloudApi → Obeys rules steps x r) (what : String) :
    Obeys (.cloudOnly kind what :: rules) steps
      ((recording kind network).requireCloudApi what >>= fun _ => x) r := by
  have hcheck : (recording kind network).requireCloudApi what =
      (Rule.cloudOnly kind what).check := by
    rw [Client.requireCloudApi, Client.refuseKind, Rule.refusal_words]
    rfl
  rw [hcheck]
  exact Obeys.check_of_kept fun hkept => hobeys (of_decide_eq_true hkept)

theorem obeys_requireGateway (hobeys : Obeys rules steps x r) (what : String) :
    Obeys (.gatewayOnly kind what :: rules) steps
      ((recording kind network).requireGateway what >>= fun _ => x) r := by
  have hcheck : (recording kind network).requireGateway what =
      (Rule.gatewayOnly kind what).check := by
    rw [Client.requireGateway, Client.refuseKind, Rule.refusal_words]
    rfl
  rw [hcheck]
  exact hobeys.check

theorem obeys_requireGatewaySocket (hobeys : Obeys rules steps x r) (what : String) :
    Obeys (.gatewaySocketOnly kind what :: rules) steps
      ((recording kind network).requireKind .gatewaySocket what >>= fun _ => x) r := by
  have hcheck : (recording kind network).requireKind .gatewaySocket what =
      (Rule.gatewaySocketOnly kind what).check := by
    rw [Client.requireKind, Client.refuseKind, Rule.refusal_words]
    show ite (kind = .gatewaySocket) _ _ = ite (decide (kind = .gatewaySocket) = true) _ _
    simp only [decide_eq_true_eq]
    rfl
  rw [hcheck]
  exact hobeys.check

variable (kind network r)

/-- A recording handler that holds the status of transactions has an id for it. -/
theorem subscriptionId?_recording :
    (recording kind network).subscriptionId? r .txStatus =
      (Table.get? Feed.txStatus r.callbacks).map fun _ => ⟨statusId⟩ := rfl

theorem id_of_subscriptionId?_recording {id : SubscriptionId}
    (hid : (recording kind network).subscriptionId? r .txStatus = some id) :
    id.text = statusId := by
  obtain ⟨callback, -, rfl⟩ := Option.map_eq_some_iff.mp hid
  rfl

theorem makes_subscribe_recording (feed : Feed) (params : Value) (callback : Callback) :
    Makes [.subscribe feed params] ((recording kind network).subscribe feed params callback) r :=
  makes_subscribe kind feed params callback

theorem makes_request_recording (method : String) (params : Value) :
    Makes [.request method params] ((recording kind network).request method params) r :=
  makes_request kind method params

theorem obeys_monitorTxs (transactions : List String) :
    Obeys [.cloudOnly kind "transaction monitoring",
        .statusSubscribed ((recording kind network).subscriptionId? r .txStatus)]
      [startMonitoring transactions] ((recording kind network).monitorTxs transactions) r := by
  refine obeys_requireCloudApi (fun _ => Obeys.status fun id hid => ?_) _
  rw [id_of_subscriptionId?_recording kind network r hid]
  exact ((makes_request_recording kind network r _ _).bind_pure fun _ => ()).obeys

theorem obeys_stopMonitoringTxs (transactions hashes : List String) :
    Obeys [.cloudOnly kind "transaction monitoring",
        .statusSubscribed ((recording kind network).subscriptionId? r .txStatus)]
      ((stopMonitoringTxs transactions hashes).calls network)
      ((recording kind network).stopMonitoringTxs transactions hashes) r := by
  refine obeys_requireCloudApi (fun _ => Obeys.status fun id hid => ?_) _
  rw [id_of_subscriptionId?_recording kind network r hid]
  exact ((makes_request_recording kind network r _ _).bind fun _ r' _ =>
    makes_unsubscribe kind .txStatus).obeys

/-- A subscription that succeeded is there. -/
theorem status_of_subscribe {params : Value} {callback : Callback} {a : Unit} {r' : Recorder}
    (hrun : ((recording kind network).subscribe .txStatus params callback).run r = (.ok a, r')) :
    ∃ id, (recording kind network).subscriptionId? r' .txStatus = some id := by
  refine ⟨⟨statusId⟩, ?_⟩
  rw [eq_of_run_perform hrun, subscriptionId?_recording, Table.get?_set_self]
  rfl

theorem obeys_onTxStatus (transactions : List String) (callback : Callback) :
    Obeys [.cloudOnly kind "transaction status feed"]
      ((onTxStatus transactions callback).calls network)
      ((recording kind network).onTxStatus transactions callback) r := by
  refine obeys_requireCloudApi (fun hcloud => Makes.obeys ?_) _
  refine (makes_subscribe kind .txStatus _ callback).bind fun _ r' hrun => ?_
  cases transactions with
  | nil => exact makes_pure ()
  | cons transaction rest =>
    obtain ⟨id, hid⟩ := status_of_subscribe kind network r hrun
    refine (obeys_monitorTxs kind network r' (transaction :: rest)).made ?_
    rw [hid, hcloud]
    rfl

end Operations

/-- **An operation has its rules, and then makes its calls.** -/
theorem obeys (call : TypedCall) (kind : EndpointKind) (network : String) (r : Recorder) :
    Obeys (call.rules kind network ((recording kind network).subscriptionId? r .txStatus))
      (call.calls network) (call.perform (recording kind network)) r := by
  rw [calls, sent_fields]
  cases call with
  | onNewTxs p callback =>
    exact (makes_subscribe_recording kind network r _ _ _).obeys.bind_pure _
  | onPendingTxs p callback =>
    exact (makes_subscribe_recording kind network r _ _ _).obeys.bind_pure _
  | onNewBlocks p callback =>
    exact (makes_subscribe_recording kind network r _ _ _).obeys.bind_pure _
  | onBdnBlocks p callback =>
    exact (makes_subscribe_recording kind network r _ _ _).obeys.bind_pure _
  | onTxReceipts p callback =>
    exact (makes_subscribe_recording kind network r _ _ _).obeys.bind_pure _
  | onEthOnBlock p callback =>
    exact ((makes_subscribe_recording kind network r _ _ _).obeys.ite_throw
      (by cases p.calls <;> rfl)).bind_pure _
  | onTxStatus transactions callback =>
    exact (obeys_onTxStatus kind network r transactions callback).bind_pure _
  | onUserIntents p callback =>
    exact (obeys_requireGateway
      ((makes_subscribe_recording kind network r _ _ _).obeys.signed p.signed).check _).bind_pure _
  | onIntentSolutions p callback =>
    exact (obeys_requireGateway
      ((makes_subscribe_recording kind network r _ _ _).obeys.signed p.signed).check _).bind_pure _
  | onQuotes p callback =>
    exact (obeys_requireGateway
      (makes_subscribe_recording kind network r _ _ _).obeys.check _).bind_pure _
  | sendTx p =>
    exact ((makes_request_recording kind network r _ _).obeys.ite_throw
      (by simp [Rule.noNextValidator]; rfl)).bind_pure _
  | sendPrivateTx p =>
    have hrequest := (makes_request_recording kind network r "blxr_private_tx" p.toValue).obeys
    exact ((obeys_requireCloudApi (fun _ => hrequest) _).ite_throw
      (by simp [Rule.mainnetOnly]; rfl)).bind_pure _
  | sendEthBundle p => exact (makes_request_recording kind network r _ _).obeys.bind_pure _
  | sendBscBundle p => exact (makes_request_recording kind network r _ _).obeys.bind_pure _
  | bscBundlePrice => exact (makes_request_recording kind network r _ _).obeys.bind_pure _
  | monitorTxs transactions => exact (obeys_monitorTxs kind network r transactions).bind_pure _
  | stopMonitoringTxs transactions hashes =>
    exact (obeys_stopMonitoringTxs kind network r transactions hashes).bind_pure _
  | submitIntent p =>
    exact (obeys_requireGateway
      ((makes_request_recording kind network r _ _).obeys.signed p.signed).check.check.check
      _).bind_pure _
  | submitIntentSolution p =>
    exact (obeys_requireGateway
      ((makes_request_recording kind network r _ _).obeys.signed p.signed).check.check.check
      _).bind_pure _
  | intentSolutions q =>
    exact (obeys_requireGatewaySocket
      ((makes_request_recording kind network r _ _).obeys.signed q.signed).check.check
      _).bind_pure _
  | submitQuote p =>
    exact (obeys_requireGateway
      ((makes_request_recording kind network r _ _).obeys.signed p.signed).check.check.check
      _).bind_pure _

/-! ### What the handler finds in the parameters -/

theorem nodup_fields (call : TypedCall) (network : String) :
    ((call.fields network).map Prod.fst).Nodup := by
  cases call <;> simp [fields, signedFields, monitoringFields]

/-- The first call has the parameters of the table, or none at all. -/
theorem exists_first (call : TypedCall) (network : String) :
    ∃ step rest, call.calls network = step :: rest ∧
      (step.params = Params.sent (call.fields network) ∨
        call.fields network = [] ∧ step.params = .null) := by
  cases call with
  | bscBundlePrice => exact ⟨_, _, rfl, .inr ⟨rfl, rfl⟩⟩
  | _ => exact ⟨_, _, rfl, .inl rfl⟩

/-- **The parameters hold what the table says**, and nothing else. -/
theorem field?_calls (call : TypedCall) (network : String) :
    ∃ step rest, call.calls network = step :: rest ∧
      (∀ key value, (key, value) ∈ call.fields network → step.params.field? key = value) ∧
      ∀ key, key ∉ (call.fields network).map Prod.fst → step.params.field? key = none := by
  obtain ⟨step, rest, hcalls, hparams | ⟨hfields, hparams⟩⟩ := call.exists_first network
  · refine ⟨step, rest, hcalls, fun key value hmem => ?_, fun key hkey => ?_⟩
    · rw [hparams, Params.field?_sent (call.nodup_fields network) hmem]
    · rw [hparams, Params.field?_sent_of_notMem (call.nodup_fields network) hkey]
  · refine ⟨step, rest, hcalls, fun key value hmem => ?_, fun key _ => ?_⟩
    · simp [hfields] at hmem
    · rw [hparams]
      rfl

theorem include_mem_fields {call : TypedCall} {items : List String}
    (hitems : call.items? = some items) (network : String) :
    ("include", some (.arr (items.map .str))) ∈ call.fields network := by
  cases call with
  | onNewTxs | onPendingTxs | onNewBlocks | onBdnBlocks | onTxReceipts | onEthOnBlock
  | onTxStatus =>
    obtain rfl := Option.some.inj hitems
    exact List.mem_cons_self
  | _ => contradiction

theorem subscribe_of_items? {call : TypedCall} {items : List String}
    (hitems : call.items? = some items) (network : String) :
    ∃ feed params rest, call.calls network = .subscribe feed params :: rest := by
  cases call with
  | onNewTxs | onPendingTxs | onNewBlocks | onBdnBlocks | onTxReceipts | onEthOnBlock
  | onTxStatus => exact ⟨_, _, _, rfl⟩
  | _ => contradiction

/-- **The items to include reach the handler.** -/
theorem include_calls {call : TypedCall} {items : List String} (hitems : call.items? = some items)
    (network : String) :
    ∃ feed params rest, call.calls network = .subscribe feed params :: rest ∧
      params.field? "include" = some (.arr (items.map .str)) := by
  obtain ⟨feed, params, rest, hcalls⟩ := subscribe_of_items? hitems network
  obtain ⟨step, rest', hfirst, hfields, -⟩ := call.field?_calls network
  obtain ⟨rfl, -⟩ := List.cons.inj (hcalls.symm.trans hfirst)
  exact ⟨feed, params, rest, hcalls, hfields _ _ (include_mem_fields hitems network)⟩

theorem bytes_subset_fields (call : TypedCall) (network : String) :
    call.bytes.map (fun e => (e.1, some (Params.bytes e.2))) ⊆ call.fields network := by
  cases call <;> simp [bytes, bytes.signed, fields, signedFields]

/-- **Bytes reach the handler as standard Base64.** -/
theorem bytes_calls {call : TypedCall} {key : String} {b : List UInt8}
    (hbytes : (key, b) ∈ call.bytes) (network : String) :
    ∃ step ∈ call.calls network, ∃ s, step.params.field? key = some (.str s) ∧
      Base64.decode? s = some b := by
  obtain ⟨step, rest, hcalls, hfields, -⟩ := call.field?_calls network
  have hmem : (key, some (Params.bytes b)) ∈ call.fields network :=
    call.bytes_subset_fields network (List.mem_map_of_mem hbytes)
  exact ⟨step, by simp [hcalls], _, hfields _ _ hmem, Base64.decode?_encode b⟩

/-! ### All of it at once -/

/-- **Operations reach a handler exactly as their rules allow.** Whatever the kind of the handler,
the network, the parameters and what the handler was asked before or is planned to answer: where a
rule is broken, the operation is refused, and nothing reaches the handler; where none is, exactly
the calls of the operation do, in their order. The parameters of the first hold what the table of
the operation says under each key, and nothing under another. A subscription tells the items that
the caller named, or the default of its feed where the caller named none, and bytes are sent as
standard Base64. -/
theorem perform_recording (call : TypedCall) (kind : EndpointKind) (network : String)
    (r : Recorder) :
    Obeys (call.rules kind network ((recording kind network).subscriptionId? r .txStatus))
        (call.calls network) (call.perform (recording kind network)) r ∧
      (∀ rule ∈ call.rules kind network ((recording kind network).subscriptionId? r .txStatus),
        rule.refusal.IsRefusal) ∧
      (∃ step rest, call.calls network = step :: rest ∧
        (∀ key value, (key, value) ∈ call.fields network → step.params.field? key = value) ∧
        ∀ key, key ∉ (call.fields network).map Prod.fst → step.params.field? key = none) ∧
      (∀ items, call.items? = some items →
        ∃ feed params rest, call.calls network = .subscribe feed params :: rest ∧
          params.field? "include" = some (.arr (items.map .str))) ∧
      ∀ key b, (key, b) ∈ call.bytes →
        ∃ step ∈ call.calls network, ∃ s, step.params.field? key = some (.str s) ∧
          Base64.decode? s = some b :=
  ⟨call.obeys kind network r, fun rule _ => rule.isRefusal, call.field?_calls network,
    fun _ hitems => include_calls hitems network, fun _ _ hbytes => bytes_calls hbytes network⟩

/-- A transaction for the next validator, with a fallback and a flag. -/
def validatorTx : TypedCall :=
  .sendTx ⟨"f86b80", none, false, true, true, some 250, false⟩

/-- On a network with validators the handler is asked for it, with these parameters; on the standard
network it is refused, and nothing reaches the handler. -/
theorem validatorTx_recorded :
    let run (network : String) :=
      (validatorTx.perform (recording .cloudApi network)).run .empty
    (∃ a, (run "BSC-Mainnet").1 = .ok a) ∧
    (run "BSC-Mainnet").2.asked = [.request "blxr_tx" (.obj [
      ("blockchain_network", .str "BSC-Mainnet"), ("fallback", .num (.int 250 (by decide))),
      ("next_validator", .bool true), ("transaction", .str "f86b80"),
      ("validators_only", .bool true)])] ∧
    run "Mainnet" = (.error (.invalidParams
      "next_validator is not supported on Ethereum Mainnet"), .empty) := by
  intro run
  obtain ⟨hobeys, -⟩ := perform_recording validatorTx .cloudApi "BSC-Mainnet" .empty
  obtain ⟨hrefused, -⟩ := perform_recording validatorTx .cloudApi "Mainnet" .empty
  obtain ⟨a, r', hrun, hasked, -⟩ := (hobeys.made rfl).all (by simp [Recorder.empty])
  refine ⟨⟨a, congrArg Prod.fst hrun⟩, (congrArg (Recorder.asked ∘ Prod.snd) hrun).trans ?_,
    hrefused.refused rfl⟩
  exact hasked.trans (by decide +kernel)

end TypedCall

end FeedLink
