import FeedLink.Client.Recording
import FeedLink.Client.Transactions
import FeedLink.Grpc.Gateway
import FeedLink.Grpc.Handler
import FeedLink.Proofs.Client.Params
import FeedLink.Proofs.Grpc.Wire
import FeedLink.Proofs.Json.Reading
import FeedLink.Proofs.Utf8

/-!
# What is left of a transaction over gRPC

A client turns a transaction and its options into parameters, in which every option that is set has
a field of its own. A handler over gRPC turns the parameters into a message, which has room for the
transaction and two flags. The parameters are understood whatever else they hold, so the other
options are neither sent nor refused: the network where it is not that of the client, that only
validators are meant, how long the next validator is waited for, and that the node validates. What
the message has room for is not lost, for messages that differ are different bytes.

## Main definitions

* `Grpc.sendTxCalls` — the procedures that a handler calls where its client sends a transaction
* `Grpc.Refused` — the client refuses to send a transaction like this

## Main results

* `Grpc.SendTxRequest.ofParams_toValue` — what is understood of the parameters of a transaction
* `Grpc.SendTxRequest.injective_encode` — messages that differ are different bytes
* `Grpc.options_over_grpc` — which options of a transaction are carried over gRPC
* `Grpc.options_lost` — options that are lost
-/

namespace FeedLink

open Json

namespace SendTxParams

/-- The fields of the parameters of a transaction. -/
def fields (p : SendTxParams) : List (String × Value) :=
  [("transaction", .str p.transaction)] ++
    Params.givenText "blockchain_network" p.network ++
    Params.raised "nonce_monitoring" p.nonceMonitoring ++
    Params.raised "validators_only" p.validatorsOnly ++
    Params.raised "next_validator" p.nextValidator ++
    Params.givenNumber "fallback" (p.fallback.map (·.toUInt64)) ++
    Params.raised "node_validation" p.nodeValidation

theorem nodup_keys_fields (p : SendTxParams) : (p.fields.map Prod.fst).Nodup := by
  have hkeys : (p.fields.map Prod.fst).Sublist ["transaction", "blockchain_network",
      "nonce_monitoring", "validators_only", "next_validator", "fallback", "node_validation"] :=
    Params.keys_append (Params.keys_append (Params.keys_append (Params.keys_append
      (Params.keys_append (Params.keys_append (Params.keys_refl _) (Params.keys_given ..))
      (Params.keys_raised ..)) (Params.keys_raised ..)) (Params.keys_raised ..))
      (Params.keys_given ..)) (Params.keys_raised ..)
  exact hkeys.nodup (by decide)

end SendTxParams

namespace Grpc

namespace SendTxRequest

theorem plain_record : record.Plain where
  names := by decide
  noAliases := by simp [record, Field.required, Field.defaulted]
  separate := by simp [Record.Separate, record, Field.spares_defaulted]

/-- An object is understood in which the transaction is a text, and a flag is raised or missing. -/
theorem ofParams_obj {fields : List (String × Value)} {transaction : String}
    {nonceMonitoring nextValidator : Bool} (hkeys : (fields.map Prod.fst).Nodup)
    (htransaction : lookup "transaction" fields = some (.str transaction))
    (hnonce : lookup "nonce_monitoring" fields =
      if nonceMonitoring then some (.bool true) else none)
    (hnext : lookup "next_validator" fields = if nextValidator then some (.bool true) else none) :
    ofParams (.obj fields) = .ok ⟨transaction, nonceMonitoring, nextValidator⟩ := by
  have hread : ∀ f ∈ record.fields, ∀ v, lookup f.name fields = some v →
      ∃ put, f.read (.ofValue v) = .ok put := by
    simp only [record, List.forall_mem_cons]
    refine ⟨fun v hv => ?_, fun v hv => ?_, fun v hv => ?_, nofun⟩
    · obtain rfl := Option.some.inj (htransaction.symm.trans hv)
      exact ⟨_, rfl⟩
    · obtain ⟨-, rfl⟩ := Option.ite_some_none_eq_some.mp (hnonce.symm.trans hv)
      exact ⟨_, rfl⟩
    · obtain ⟨-, rfl⟩ := Option.ite_some_none_eq_some.mp (hnext.symm.trans hv)
      exact ⟨_, rfl⟩
  have hthere : ∀ f ∈ record.fields, f.absence = .refused → (lookup f.name fields).isSome := by
    simp only [record, List.forall_mem_cons]
    exact ⟨fun _ => Option.isSome_of_eq_some htransaction, nofun, nofun, nofun⟩
  obtain ⟨m, hm, hreceives⟩ := plain_record.exists_ofValue_obj hkeys hread hthere
  simp only [record, List.forall_mem_cons] at hreceives
  obtain ⟨hfirst, hsecond, hthird, -⟩ := hreceives
  rw [Field.receives_required_iff Codec.injective_write_string (fun _ _ => rfl),
    Field.name_required, htransaction] at hfirst
  rw [Field.receives_defaulted_iff Codec.injective_write_bool (fun _ _ => rfl),
    Field.name_defaulted, hnonce] at hsecond
  rw [Field.receives_defaulted_iff Codec.injective_write_bool (fun _ _ => rfl),
    Field.name_defaulted, hnext] at hthird
  have hequal : m = ⟨transaction, nonceMonitoring, nextValidator⟩ := by
    obtain ⟨transaction', nonceMonitoring', nextValidator'⟩ := m
    obtain rfl : transaction = transaction' := Except.ok.inj hfirst
    obtain rfl : nonceMonitoring = nonceMonitoring' := by
      cases nonceMonitoring with
      | true => exact Except.ok.inj hsecond
      | false => exact hsecond.symm
    obtain rfl : nextValidator = nextValidator' := by
      cases nextValidator with
      | true => exact Except.ok.inj hthird
      | false => exact hthird.symm
    rfl
  exact hequal ▸ hm

/-- **The parameters of a transaction are understood**, and what else they hold is not looked at. -/
theorem ofParams_toValue (p : SendTxParams) :
    ofParams p.toValue = .ok ⟨p.transaction, p.nonceMonitoring, p.nextValidator⟩ := by
  have hkeys := p.nodup_keys_fields
  have hfields : p.toValue = .obj (sortFields p.fields) := rfl
  rw [hfields]
  refine ofParams_obj (((sortFields_perm hkeys).map Prod.fst).nodup_iff.mpr hkeys) ?_ ?_ ?_ <;>
    rw [lookup_sortFields hkeys] <;>
    simp [SendTxParams.fields, Params.lookup_append, Params.lookup_given, Params.lookup_raised,
      Params.givenText, Params.givenNumber, lookup]

/-! ### The bytes of the message -/

/-- The flags that are raised, as they are written. -/
def flagBytes (nonceMonitoring nextValidator : Bool) : List UInt8 :=
  (if nonceMonitoring then [16, 1] else []) ++ (if nextValidator then [24, 1] else [])

theorem flagBytes_inj {a b a' b' : Bool} (heq : flagBytes a b = flagBytes a' b') :
    a = a' ∧ b = b' := by
  revert a b a' b'
  decide

/-- The flags are not mistaken for a transaction. -/
theorem flagBytes_ne_cons (a b : Bool) (rest : List UInt8) : flagBytes a b ≠ 10 :: rest := by
  cases a <;> cases b <;> simp [flagBytes]

theorem encodeVarint_one {tag : Nat} (htag : 8 * tag < 128) :
    Wire.encodeVarint tag 1 = [UInt8.ofNat (8 * tag), 1] := by
  rw [Wire.encodeVarint, Wire.writeVarint_of_lt htag, Wire.writeVarint_of_lt (by decide)]
  rfl

theorem encodeDelimited_one (content : List UInt8) :
    Wire.encodeDelimited 1 content = 10 :: (Wire.writeVarint content.length ++ content) := by
  rw [Wire.encodeDelimited, Wire.writeVarint_of_lt (by decide)]
  rfl

theorem encode_eq (m : SendTxRequest) : schema.encode m =
    (if m.transaction = "" then []
      else Wire.encodeDelimited 1 (Utf8.bytesOf m.transaction)) ++
      flagBytes m.nonceMonitoring m.nextValidator := by
  simp [Schema.encode, schema, SchemaField.string, SchemaField.bool, flagBytes,
    encodeVarint_one (show 8 * 2 < 128 by decide), encodeVarint_one (show 8 * 3 < 128 by decide)]

/-- **Messages that differ are different bytes.** -/
theorem injective_encode : Function.Injective schema.encode := by
  intro m m' heq
  obtain ⟨transaction, nonceMonitoring, nextValidator⟩ := m
  obtain ⟨transaction', nonceMonitoring', nextValidator'⟩ := m'
  rw [encode_eq, encode_eq] at heq
  obtain ⟨htransaction, hflags⟩ : transaction = transaction' ∧
      flagBytes nonceMonitoring nextValidator = flagBytes nonceMonitoring' nextValidator' := by
    by_cases hempty : transaction = "" <;> by_cases hempty' : transaction' = ""
    · simp only [hempty, hempty', if_true, List.nil_append] at heq
      exact ⟨hempty.trans hempty'.symm, heq⟩
    · simp only [hempty, hempty', if_true, if_false, List.nil_append, encodeDelimited_one] at heq
      exact absurd heq (flagBytes_ne_cons _ _ _)
    · simp only [hempty, hempty', if_true, if_false, List.nil_append, encodeDelimited_one] at heq
      exact absurd heq.symm (flagBytes_ne_cons _ _ _)
    · simp only [hempty, hempty', if_false] at heq
      obtain ⟨hbytes, hflags⟩ := Wire.encodeDelimited_append_inj heq
      exact ⟨Utf8.injective_bytesOf hbytes, hflags⟩
  obtain ⟨rfl, rfl⟩ := flagBytes_inj hflags
  rw [htransaction]

end SendTxRequest

/-! ### From the client to the gateway -/

/-- The call of a procedure that begins with an output. -/
def Output.procedureCall? : Output → Option (Except Status ProcedureCall)
  | .calling _ method params => some (Gateway.requestCall method params)
  | _ => none

/-- The procedures that a handler calls for what it was asked. -/
def Handler.procedureCalls (s : Settings) (now : Duration) (call : CallId) (h : Handler) :
    Asked → List (Except Status ProcedureCall)
  | .request method params =>
    (h.request s now call method params).2.filterMap Output.procedureCall?
  | _ => []

/-- A client of a handler over gRPC that writes down what the handler is asked. -/
def recording (network : String) : Client Recorder := ⟨Recorder.handler .gatewayGrpc, network⟩

/-- The procedures that a handler calls where its client sends a transaction. -/
def sendTxCalls (s : Settings) (now : Duration) (call : CallId) (h : Handler) (network : String)
    (p : SendTxParams) : List (Except Status ProcedureCall) :=
  (((recording network).sendTx p).run .empty).2.asked.flatMap (h.procedureCalls s now call)

/-- The client refuses to send a transaction like this: the standard network has no next
validator. -/
def Refused (network : String) (p : SendTxParams) : Prop :=
  p.nextValidator = true ∧ p.network.getD network = "Mainnet"

theorem run_sendTx_of_refused {σ : Type} {c : Client σ} {p : SendTxParams}
    (hrefused : Refused c.network p) (s : σ) : (c.sendTx p).run s =
      (.error (.invalidParams "next_validator is not supported on Ethereum Mainnet"), s) := by
  have hthrow : c.sendTx p =
      throw (.invalidParams "next_validator is not supported on Ethereum Mainnet") :=
    if_pos hrefused
  rw [hthrow]
  rfl

theorem sendTx_of_not_refused {σ : Type} {c : Client σ} {p : SendTxParams}
    (hrefused : ¬Refused c.network p) : c.sendTx p =
      c.request "blxr_tx" { p with network := some (p.network.getD c.network) }.toValue :=
  if_neg hrefused

variable {s : Settings} {now : Duration} {call : CallId} {h : Handler} {network : String}
  {p q : SendTxParams}

theorem sendTxCalls_of_refused (hrefused : Refused network p) :
    sendTxCalls s now call h network p = [] := by
  rw [sendTxCalls, run_sendTx_of_refused (c := recording network) hrefused]
  rfl

/-- **What is left of a transaction.** The only thing that is called is the procedure for it, and
the message has the transaction and two of its flags. -/
theorem sendTxCalls_of_not_refused (hrefused : ¬Refused network p) (hopen : h.closed = false) :
    sendTxCalls s now call h network p = [.ok ⟨Gateway.sendTxPath, SendTxRequest.schema.encode
      ⟨p.transaction, p.nonceMonitoring, p.nextValidator⟩⟩] := by
  have hasked : (((recording network).sendTx p).run .empty).2.asked =
      [.request "blxr_tx" { p with network := some (p.network.getD network) }.toValue] := by
    rw [sendTx_of_not_refused (c := recording network) hrefused]
    rfl
  have hcall : ∀ method params,
      h.procedureCalls s now call (.request method params) =
        [Gateway.requestCall method params] := by
    intro method params
    rw [Handler.procedureCalls, Handler.request, hopen]
    rfl
  rw [sendTxCalls, hasked, List.flatMap_singleton, hcall, Gateway.requestCall,
    if_pos (show "blxr_tx" = Gateway.sendTxMethod from rfl), SendTxRequest.ofParams_toValue]
  rfl

/-- Transactions that are not refused come to the same bytes if they agree in what the message
has. -/
theorem sendTxCalls_eq_iff (hp : ¬Refused network p) (hq : ¬Refused network q)
    (hopen : h.closed = false) :
    sendTxCalls s now call h network p = sendTxCalls s now call h network q ↔
      p.transaction = q.transaction ∧ p.nonceMonitoring = q.nonceMonitoring ∧
        p.nextValidator = q.nextValidator := by
  rw [sendTxCalls_of_not_refused hp hopen, sendTxCalls_of_not_refused hq hopen]
  simp only [List.cons.injEq, and_true, Except.ok.injEq, ProcedureCall.mk.injEq, true_and,
    SendTxRequest.injective_encode.eq_iff, SendTxRequest.mk.injEq]

theorem sendTxCalls_of_closed (hclosed : h.closed = true) :
    sendTxCalls s now call h network p = [] := by
  refine List.flatMap_eq_nil_iff.mpr fun asked _ => ?_
  cases asked with
  | request method params =>
    rw [Handler.procedureCalls, Handler.request, hclosed]
    rfl
  | _ => rfl

/-- **Which options of a transaction are carried over gRPC.** A transaction that asks for the next
validator of the standard network is refused, and nothing is called; nor does a handler that was
closed call anything. Any other transaction comes to one call, whose message has the transaction,
the monitoring of nonces and the next validator; two of them come to the same bytes if and only if
they agree in these three. -/
theorem options_over_grpc (s : Settings) (now : Duration) (call : CallId) (h : Handler)
    (network : String) :
    (∀ p, Refused network p →
      ((recording network).sendTx p).run .empty =
          (.error (.invalidParams "next_validator is not supported on Ethereum Mainnet"), .empty) ∧
        sendTxCalls s now call h network p = []) ∧
      (∀ p, h.closed = true → sendTxCalls s now call h network p = []) ∧
      (∀ p, ¬Refused network p → h.closed = false →
        sendTxCalls s now call h network p = [.ok ⟨Gateway.sendTxPath, SendTxRequest.schema.encode
          ⟨p.transaction, p.nonceMonitoring, p.nextValidator⟩⟩]) ∧
      ∀ p q, ¬Refused network p → ¬Refused network q → h.closed = false →
        (sendTxCalls s now call h network p = sendTxCalls s now call h network q ↔
          p.transaction = q.transaction ∧ p.nonceMonitoring = q.nonceMonitoring ∧
            p.nextValidator = q.nextValidator) :=
  ⟨fun _ hp => ⟨run_sendTx_of_refused (c := recording network) hp .empty,
      sendTxCalls_of_refused hp⟩,
    fun _ hclosed => sendTxCalls_of_closed hclosed,
    fun _ hp hopen => sendTxCalls_of_not_refused hp hopen,
    fun _ _ hp hq hopen => sendTxCalls_eq_iff hp hq hopen⟩

/-- A transaction without options. -/
def bareTx : SendTxParams := ⟨"f86b01", none, false, false, false, none, false⟩

/-- The same transaction for another network, for validators only, with a time to wait for the next
validator, and to be validated by the node. -/
def optionedTx : SendTxParams := ⟨"f86b01", some "BSC-Mainnet", false, true, false, some 100, true⟩

/-- A handler that was just connected is asked under the standard settings. -/
def firstCalls (p : SendTxParams) : List (Except Status ProcedureCall) :=
  sendTxCalls (.ofConfig .standard .standard) .zero ⟨"send"⟩ .initial "Mainnet" p

/-- **Options that are lost.** Neither transaction is refused, and both are sent as the same
bytes. -/
theorem options_lost :
    ¬Refused "Mainnet" bareTx ∧ ¬Refused "Mainnet" optionedTx ∧ bareTx ≠ optionedTx ∧
      firstCalls bareTx = firstCalls optionedTx ∧ (firstCalls optionedTx).length = 1 := by
  have hbare : ¬Refused "Mainnet" bareTx := fun h => Bool.false_ne_true h.1
  have hoptioned : ¬Refused "Mainnet" optionedTx := fun h => Bool.false_ne_true h.1
  refine ⟨hbare, hoptioned, by decide, (sendTxCalls_eq_iff hbare hoptioned rfl).mpr ⟨rfl, rfl, rfl⟩,
    ?_⟩
  rw [firstCalls, sendTxCalls_of_not_refused hoptioned rfl]
  rfl

end Grpc

end FeedLink
