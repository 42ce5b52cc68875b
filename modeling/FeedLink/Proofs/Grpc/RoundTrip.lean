import FeedLink.Grpc.Message
import FeedLink.Proofs.Grpc.Layout

/-!
# The messages of the gateway are read back

Every message that is sent to the gateway or comes from it is read back from its own bytes, as long
as these can be counted: a submessage that is there but blank is told from one that is not there, a
time before 1970 is still one, and texts come back in their order. A message that was read from any
bytes, with fields of other tags among them, in another order, or in several pieces, takes no more
bytes than those, and so it is read back as well.

## Main definitions

* `Grpc.Schema.RoundTrips` — whatever is written or read is read back

## Main results

* `Grpc.messages_roundTrip` — the six messages of the gateway
-/

namespace FeedLink.Grpc

open SchemaField Schema

/-! ### The layouts

That a place holds what was put there, and that nothing else is written differently then, is true of
a structure by computation.
-/

theorem TxsRequest.sound_schema : TxsRequest.schema.Sound := by
  refine ⟨by decide, by decide, rfl, fun _ =>
    .cons (keeps_string ?_) rfl (fun _ _ => rfl) <|
    .cons (keeps_strings ?_) rfl (fun _ _ => rfl) .nil⟩ <;>
  exact ⟨fun _ _ => rfl, fun _ _ _ => rfl, fun _ => rfl⟩

theorem Tx.sound_schema : Tx.schema.Sound := by
  refine ⟨by decide, by decide, rfl, fun _ =>
    .cons (keeps_bytes ?_) rfl (fun _ _ => rfl) <|
    .cons (keeps_bool ?_) rfl (fun _ _ => rfl) <|
    .cons (keeps_int64 ?_) rfl (fun _ _ => rfl) <|
    .cons (keeps_bytes ?_) rfl (fun _ _ => rfl) .nil⟩ <;>
  exact ⟨fun _ _ => rfl, fun _ _ _ => rfl, fun _ => rfl⟩

theorem TxsReply.sound_schema : TxsReply.schema.Sound := by
  refine ⟨by decide, by decide, rfl, fun _ =>
    .cons (keeps_messages ?_ Tx.sound_schema.nests) rfl (fun _ _ => rfl) .nil⟩
  exact ⟨fun _ _ => rfl, fun _ _ _ => rfl, fun _ => rfl⟩

theorem BlocksRequest.sound_schema : BlocksRequest.schema.Sound := by
  refine ⟨by decide, by decide, rfl, fun _ =>
    .cons (keeps_strings ?_) rfl (fun _ _ => rfl) .nil⟩
  exact ⟨fun _ _ => rfl, fun _ _ _ => rfl, fun _ => rfl⟩

theorem Header.sound_schema : Header.schema.Sound := by
  refine ⟨by decide, by decide, rfl, fun _ => ?_⟩
  iterate 15
    refine .cons (keeps_string ?_) rfl (fun _ _ => rfl) ?_
    · exact ⟨fun _ _ => rfl, fun _ _ _ => rfl, fun _ => rfl⟩
  exact .nil

theorem Validator.sound_schema : Validator.schema.Sound := by
  refine ⟨by decide, by decide, rfl, fun _ =>
    .cons (keeps_string ?_) rfl (fun _ _ => rfl) <|
    .cons (keeps_string ?_) rfl (fun _ _ => rfl) <|
    .cons (keeps_string ?_) rfl (fun _ _ => rfl) .nil⟩ <;>
  exact ⟨fun _ _ => rfl, fun _ _ _ => rfl, fun _ => rfl⟩

theorem RawTransaction.sound_schema : RawTransaction.schema.Sound := by
  refine ⟨by decide, by decide, rfl, fun _ =>
    .cons (keeps_bytes ?_) rfl (fun _ _ => rfl) <|
    .cons (keeps_bytes ?_) rfl (fun _ _ => rfl) .nil⟩ <;>
  exact ⟨fun _ _ => rfl, fun _ _ _ => rfl, fun _ => rfl⟩

theorem BlocksReply.sound_schema : BlocksReply.schema.Sound := by
  refine ⟨by decide, by decide, rfl, fun _ =>
    .cons (keeps_string ?_) rfl (fun _ _ => rfl) <|
    .cons (keeps_message ?_ Header.sound_schema.nests) rfl (fun _ _ => rfl) <|
    .cons (keeps_messages ?_ Validator.sound_schema.nests) rfl (fun _ _ => rfl) <|
    .cons (keeps_messages ?_ RawTransaction.sound_schema.nests) rfl (fun _ _ => rfl) .nil⟩ <;>
  exact ⟨fun _ _ => rfl, fun _ _ _ => rfl, fun _ => rfl⟩

theorem SendTxRequest.sound_schema : SendTxRequest.schema.Sound := by
  refine ⟨by decide, by decide, rfl, fun _ =>
    .cons (keeps_string ?_) rfl (fun _ _ => rfl) <|
    .cons (keeps_bool ?_) rfl (fun _ _ => rfl) <|
    .cons (keeps_bool ?_) rfl (fun _ _ => rfl) .nil⟩ <;>
  exact ⟨fun _ _ => rfl, fun _ _ _ => rfl, fun _ => rfl⟩

theorem SendTxReply.sound_schema : SendTxReply.schema.Sound := by
  refine ⟨by decide, by decide, rfl, fun _ =>
    .cons (keeps_string ?_) rfl (fun _ _ => rfl) .nil⟩
  exact ⟨fun _ _ => rfl, fun _ _ _ => rfl, fun _ => rfl⟩

/-! ### Reading back -/

/-- Whatever is written is read back, and whatever is read can be written and read again. A machine
of 64 bits has no more bytes than are asked for here. -/
structure Schema.RoundTrips (s : Schema σ) : Prop where
  readsBack : ∀ m, (s.encode m).length < 2 ^ 64 → s.decode? (s.encode m) = some m
  rereads : ∀ bytes m, bytes.length < 2 ^ 64 → s.decode? bytes = some m →
    (s.encode m).length ≤ bytes.length ∧ s.decode? (s.encode m) = some m

theorem Schema.Sound.roundTrips {s : Schema σ} (hsound : s.Sound) : s.RoundTrips where
  readsBack := hsound.readsBack 0
  rereads bytes m hlength hread := by
    have hle : (s.encode m).length ≤ bytes.length := by
      simpa [hsound.blank] using hsound.frugal 0 bytes s.blank m hread
    exact ⟨hle, hsound.readsBack 0 m (Nat.lt_of_le_of_lt hle hlength)⟩

/-- **The messages of the gateway are read back**, from their own bytes and again from what was read
from any others. -/
theorem messages_roundTrip :
    TxsRequest.schema.RoundTrips ∧ TxsReply.schema.RoundTrips ∧
    BlocksRequest.schema.RoundTrips ∧ BlocksReply.schema.RoundTrips ∧
    SendTxRequest.schema.RoundTrips ∧ SendTxReply.schema.RoundTrips :=
  ⟨TxsRequest.sound_schema.roundTrips, TxsReply.sound_schema.roundTrips,
    BlocksRequest.sound_schema.roundTrips, BlocksReply.sound_schema.roundTrips,
    SendTxRequest.sound_schema.roundTrips, SendTxReply.sound_schema.roundTrips⟩

/-- A field of a tag that no frame has, and a transaction whose fields stand in another order than
they are written in, with a number that takes a byte too many. -/
def scattered : List UInt8 :=
  [0x48, 0x05, 0x0a, 0x09, 0x22, 0x01, 0x02, 0x18, 0x85, 0x00, 0x0a, 0x01, 0xee]

/-- The frame in `scattered`. -/
def gathered : TxsReply := ⟨[⟨[0xee], false, 5, [0x02]⟩]⟩

/-- A transaction of before 1970. -/
def earlyTxs : TxsReply := ⟨[⟨[], true, -1, []⟩]⟩

/-- A block with a header and a validator of which nothing is known. -/
def vagueBlock : BlocksReply := ⟨"", some Header.schema.blank, [Validator.schema.blank], []⟩

theorem scattered_and_vague_roundTrip :
    (TxsReply.schema.decode? scattered = some gathered ∧
      TxsReply.schema.encode gathered ≠ scattered ∧
      TxsReply.schema.decode? (TxsReply.schema.encode gathered) = some gathered) ∧
    TxsReply.schema.decode? (TxsReply.schema.encode earlyTxs) = some earlyTxs ∧
    BlocksReply.schema.decode? (BlocksReply.schema.encode vagueBlock) = some vagueBlock := by
  have hother : TxsReply.schema.encode gathered ≠ scattered := by cbv; decide
  have hearly : (TxsReply.schema.encode earlyTxs).length < 2 ^ 64 := by cbv
  have hvague : (BlocksReply.schema.encode vagueBlock).length < 2 ^ 64 := by cbv
  have hread : TxsReply.schema.decode? scattered = some gathered := by cbv
  obtain ⟨-, htxs, -, hblocks, -, -⟩ := messages_roundTrip
  exact ⟨⟨hread, hother, (htxs.rereads _ _ (by decide) hread).2⟩, htxs.readsBack _ hearly,
    hblocks.readsBack _ hvague⟩

end FeedLink.Grpc
