import FeedLink.Grpc.Gateway
import FeedLink.Proofs.Notification
import FeedLink.Proofs.Utf8

/-!
# Frames as notifications

A frame becomes payloads with names of their own choice, and the decoders look for the names under
which a WebSocket sends the same things. A field under another name would be passed over and keep
its default, so what has to be shown is that no field of a frame is lost: for each message there is
the notification with the same contents, field by field, and its payload is read as that.

## Main definitions

* `Tx.notification`, `BlocksReply.notification` — what a frame says, as a notification

## Main results

* `Tx.read_toValue`, `BlocksReply.read_payload` — the payload of a frame is read as its notification
* `frames_decode_losslessly`
-/

namespace FeedLink.Grpc

open Json
open Record (reads_nil_iff reads_cons_iff)

/-! ### What a frame says -/

/-- A transaction of a feed, as a notification. A frame says nothing about the other fields. -/
def Tx.notification (tx : Tx) : NewTx :=
  { NewTx.blank with
    txContents := some { TxContents.blank with sender := Utf8.lossyText tx.sender }
    localRegion := tx.localRegion
    time := toString tx.time.toInt
    rawTx := Utf8.lossyText tx.rawTx }

/-- A header, as part of a notification. -/
def Header.notification (h : Header) : BlockHeader where
  parentHash := h.parentHash
  sha3Uncles := h.sha3Uncles
  miner := h.miner
  stateRoot := h.stateRoot
  transactionsRoot := h.transactionsRoot
  receiptsRoot := h.receiptsRoot
  logsBloom := h.logsBloom
  difficulty := h.difficulty
  number := h.number
  gasLimit := h.gasLimit
  gasUsed := h.gasUsed
  timestamp := h.timestamp
  extraData := h.extraData
  mixHash := h.mixHash
  nonce := h.nonce

/-- A validator, as part of a notification. -/
def Validator.notification (v : Validator) : FutureValidator where
  blockHeight := v.blockHeight
  walletId := v.walletId
  accessible := v.accessible

/-- A transaction of a block, as part of a notification. A frame does not say its hash. -/
def RawTransaction.notification (t : RawTransaction) : BlockTransaction :=
  { BlockTransaction.blank with
    sender := Utf8.lossyText t.sender
    rawTx := Utf8.lossyText t.rawTx }

/-- A frame of a feed of blocks, as a notification. -/
def BlocksReply.notification (b : BlocksReply) : Block where
  hash := b.hash
  header := b.header.map Header.notification
  futureValidators := b.futureValidators.map Validator.notification
  transactions := b.transactions.map RawTransaction.notification

/-! ### Transactions -/

theorem ofList_renderInt (i : Int) : String.ofList (Number.renderInt i) = toString i := by
  cases i with
  | ofNat n =>
    have hsign : ¬Int.ofNat n < 0 := Int.not_lt.mpr (Int.natCast_nonneg n)
    rw [Number.renderInt, if_neg hsign]
    rfl
  | negSucc n =>
    rw [Number.renderInt, if_pos (Int.negSucc_lt_zero n), String.ofList_cons]
    rfl

/-- What a transaction says is read as the sender. -/
theorem read_contents (sender : String) :
    TxContents.record.codec.option.ofValue (.object [("from", .str sender)]) =
      .ok (some { TxContents.blank with sender }) := by
  refine Codec.ofValue_some ?_ Value.noConfusion
  refine TxContents.independent.ofValue_object (by simp) ?_
  simp [TxContents.record, reads_cons_iff, reads_nil_iff, Field.read_defaulted, Except.map]

/-- **The payload of a transaction is read as its notification.** -/
theorem Tx.read_toValue (tx : Tx) :
    NewTx.record.codec.ofValue tx.toValue = .ok tx.notification := by
  refine NewTx.independent.ofValue_object (by simp) ?_
  simp [NewTx.record, NewTx.blank, reads_cons_iff, reads_nil_iff, Field.read_defaulted, Except.map,
    read_contents, ofList_renderInt, notification]

/-! ### Blocks -/

theorem RawTransaction.read_toValue (t : RawTransaction) :
    BlockTransaction.record.codec.ofValue t.toValue = .ok t.notification := by
  refine BlockTransaction.independent.ofValue_object (by simp) ?_
  simp [BlockTransaction.record, BlockTransaction.blank, reads_cons_iff, reads_nil_iff,
    Field.read_defaulted, notification, Except.map]

/-- **The payload of a block is read as its notification.** -/
theorem BlocksReply.read_payload (b : BlocksReply) :
    Block.record.codec.ofValue b.payload = .ok b.notification := by
  have hheader :
      BlockHeader.record.codec.option.ofValue ((b.header.map Header.toValue).getD .null) =
        .ok (b.header.map Header.notification) := by
    cases b.header with
    | none => rfl
    | some h => exact Codec.ofValue_some h.notification.readsBack Value.noConfusion
  have hvalidators : FutureValidator.record.codec.list.ofValue
      (.arr (b.futureValidators.map Validator.toValue)) =
        .ok (b.futureValidators.map Validator.notification) :=
    Codec.ofValue_arr fun v _ => v.notification.readsBack
  have htransactions : BlockTransaction.record.codec.list.ofValue
      (.arr (b.transactions.map RawTransaction.toValue)) =
        .ok (b.transactions.map RawTransaction.notification) :=
    Codec.ofValue_arr fun t _ => t.read_toValue
  refine Block.independent.ofValue_object (by simp) ?_
  simp [Block.record, Block.blank, reads_cons_iff, reads_nil_iff, Field.read_defaulted, Except.map,
    hheader, hvalidators, htransactions, notification]

/-! ### Feeds -/

theorem Tx.decode_toValue {f : Feed} (hf : f ∈ [Feed.newTxs, .pendingTxs]) (tx : Tx) :
    Decoders.standard.decode f tx.toValue = .ok (.newTx tx.notification) := by
  have hshape : Decoders.standard.shape? f = some .newTx := by
    revert f
    decide
  exact Decoders.decode_of_shape? hshape (congrArg (Except.map Notification.newTx) tx.read_toValue)

theorem BlocksReply.decode_payload {f : Feed} (hf : f ∈ [Feed.newBlocks, .bdnBlocks])
    (b : BlocksReply) : Decoders.standard.decode f b.payload = .ok (.block b.notification) := by
  have hshape : Decoders.standard.shape? f = some .block := by
    revert f
    decide
  exact Decoders.decode_of_shape? hshape (congrArg (Except.map Notification.block) b.read_payload)

/-- The feed that a stream carries. -/
def Stream.feed : Stream → Feed
  | newTxs => .newTxs
  | pendingTxs => .pendingTxs
  | newBlocks => .newBlocks
  | bdnBlocks => .bdnBlocks

theorem Stream.feed_of_ofFeed? {f : Feed} {stream : Stream} (hstream : ofFeed? f = some stream) :
    f = stream.feed := by
  unfold ofFeed? at hstream
  repeat' split at hstream
  all_goals cases hstream <;> assumption

/-- The payloads of a frame, on the feed whose stream it came on, are decoded. -/
theorem Stream.decode_payloads {f : Feed} {stream : Stream} {frame : List UInt8}
    {payloads : List Value} (hstream : ofFeed? f = some stream)
    (hframe : stream.payloads? frame = some payloads) {v : Value} (hv : v ∈ payloads) :
    ∃ n, Decoders.standard.decode f v = .ok n := by
  obtain rfl := feed_of_ofFeed? hstream
  cases stream with
  | newTxs | pendingTxs =>
    obtain ⟨m, -, rfl⟩ := Option.map_eq_some_iff.mp hframe
    obtain ⟨tx, -, rfl⟩ := List.mem_map.mp hv
    exact ⟨_, tx.decode_toValue (by decide)⟩
  | newBlocks | bdnBlocks =>
    obtain ⟨b, -, rfl⟩ := Option.map_eq_some_iff.mp hframe
    obtain rfl := List.mem_singleton.mp hv
    exact ⟨_, b.decode_payload (by decide)⟩

/-- **Every frame decodes, and nothing is lost.** A frame of transactions becomes one payload for
each, in order, and the payload is decoded as the notification with the same sender, region, time
and contents; a frame of blocks is decoded as the notification with the same hash, header,
validators and transactions. Bytes become the text that they are the UTF-8 form of, if there is one.
So no frame of a stream ends in an error. -/
theorem frames_decode_losslessly :
    (∀ f ∈ [Feed.newTxs, .pendingTxs], ∀ m : TxsReply,
      m.payloads.map (Decoders.standard.decode f) =
        m.txs.map fun tx => .ok (.newTx tx.notification)) ∧
      (∀ f ∈ [Feed.newBlocks, .bdnBlocks], ∀ b : BlocksReply,
        Decoders.standard.decode f b.payload = .ok (.block b.notification)) ∧
      (∀ s : String, Utf8.lossyText (Utf8.bytesOf s) = s) ∧
      ∀ (f : Feed) (stream : Stream) (frame : List UInt8) (payloads : List Value),
        Stream.ofFeed? f = some stream → stream.payloads? frame = some payloads →
          ∀ v ∈ payloads, ∃ n, Decoders.standard.decode f v = .ok n := by
  refine ⟨fun f hf m => ?_, fun f hf b => b.decode_payload hf, Utf8.lossyText_bytesOf,
    fun f stream frame payloads hstream hframe v hv => Stream.decode_payloads hstream hframe hv⟩
  rw [TxsReply.payloads, List.map_map]
  exact List.map_congr_left fun tx _ => tx.decode_toValue hf

/-- A frame with a transaction whose sender is no UTF-8, and a blank one. -/
def TxsReply.withStrayByte : TxsReply :=
  ⟨[⟨[0x30, 0x78, 0xC3], true, -5, Utf8.bytesOf "f86bé"⟩, ⟨[], false, 0, []⟩]⟩

/-- A frame with a header. -/
def BlocksReply.withHeader : BlocksReply where
  hash := "0xabc"
  header := some { Header.schema.blank with sha3Uncles := "0x1d", nonce := "0x7" }
  futureValidators := [⟨"17", "0xv", "true"⟩]
  transactions := [⟨[0x30], [0xF8]⟩]

theorem stray_byte_and_header_decode :
    TxsReply.withStrayByte.payloads.map (Decoders.standard.decode .pendingTxs) = [
      .ok (.newTx ⟨"", some { TxContents.blank with sender := "0x\uFFFD" }, true, "-5", "f86bé"⟩),
      .ok (.newTx ⟨"", some TxContents.blank, false, "0", ""⟩)] ∧
      Decoders.standard.decode .bdnBlocks BlocksReply.withHeader.payload = .ok (.block {
        hash := "0xabc"
        header := some { BlockHeader.blank with sha3Uncles := "0x1d", nonce := "0x7" }
        futureValidators := [⟨"17", "0xv", "true"⟩]
        transactions := [⟨"", "0", "\uFFFD"⟩] }) ∧
      ∃ n, Decoders.standard.decode .newBlocks (BlocksReply.schema.blank).payload = .ok n := by
  have htxs := frames_decode_losslessly.1 .pendingTxs (by decide) .withStrayByte
  have hblock := frames_decode_losslessly.2.1 .bdnBlocks (by decide) .withHeader
  have hframe := frames_decode_losslessly.2.2.2 .newBlocks .newBlocks [] _ rfl rfl _
    (List.mem_singleton_self _)
  refine ⟨htxs.trans ?_, hblock.trans ?_, hframe⟩
  · decide +kernel
  · decide +kernel

end FeedLink.Grpc
