import FeedLink.Proofs.Json.Outline
import FeedLink.Proofs.Notification

/-!
# Notifications with fields left out

A server sends the fields that a subscriber has asked for, and may send some that the subscriber has
never heard of. Either way a payload is decoded. The outline of a shape says where its payloads hold
objects that become records: the payload itself, the contents of a transaction, the header of a
block with its validators and transactions, the logs of a receipt. From any of them any fields may
be taken, whether they come under their name or under another one that they answer to. What is taken
has its default, an empty text or list, false or nothing at all, and what is left decodes as before.
A list keeps its length.

What is written of a notification tells it from all others of its shape, so the notification of the
thinned payload can be described by what is written of it.

## Main definitions

* `Shape.outline` — where the payloads of a shape hold objects that become records

## Main results

* `Notification.eq_of_write` — what is written of a notification tells it apart
* `Shape.decode_thinned`, `Shape.decode_padded` — a payload with fewer fields, and with more
* `every_field_is_optional`
-/

namespace FeedLink

open Json

/-! ### Transactions -/

namespace TxContents

theorem separate : record.Separate := by simp [record, Record.Separate, Field.spares_defaulted]

theorem follows : record.codec.Follows (.flat record) :=
  independent.follows separate (by simp [record, Field.follows_defaulted])

theorem injective_write : Function.Injective record.codec.write := by
  have haccess := Codec.injective_write_list Codec.injective_write_value
  refine independent.injective_write ?_
  rintro ⟨⟩ ⟨⟩ hfields
  simpa [record, haccess] using hfields

end TxContents

namespace NewTx

def outline : Outline :=
  .record record fun
    | "txContents" => .flat TxContents.record
    | _ => .whole

theorem separate : record.Separate := by simp [record, Record.Separate, Field.spares_defaulted]

theorem follows : record.codec.Follows outline := by
  have hcontents : TxContents.record.codec.option.Follows (.flat TxContents.record) :=
    TxContents.follows.option
  exact independent.follows separate (by simp [record, Field.follows_defaulted, hcontents])

theorem injective_write : Function.Injective record.codec.write := by
  have hcontents := Codec.injective_write_option TxContents.injective_write Record.write_ne_null
  refine independent.injective_write ?_
  rintro ⟨⟩ ⟨⟩ hfields
  simpa [record, hcontents, Field.write_defaulted_eq_iff Codec.injective_write_bool] using hfields

end NewTx

namespace TxStatus

theorem separate : record.Separate := by simp [record, Record.Separate, Field.spares_defaulted]

theorem follows : record.codec.Follows (.flat record) :=
  independent.follows separate (by simp [record, Field.follows_defaulted])

theorem injective_write : Function.Injective record.codec.write := by
  refine independent.injective_write ?_
  rintro ⟨⟩ ⟨⟩ hfields
  simpa [record] using hfields

end TxStatus

namespace ReceiptLog

theorem separate : record.Separate := by simp [record, Record.Separate, Field.spares_defaulted]

theorem follows : record.codec.Follows (.flat record) :=
  independent.follows separate (by simp [record, Field.follows_defaulted])

theorem injective_write : Function.Injective record.codec.write := by
  have htopics := Codec.injective_write_list Codec.injective_write_string
  refine independent.injective_write ?_
  rintro ⟨⟩ ⟨⟩ hfields
  simpa [record, htopics, Field.write_defaulted_eq_iff Codec.injective_write_bool] using hfields

end ReceiptLog

namespace TxReceipt

def outline : Outline :=
  .record record fun
    | "logs" => .list (.flat ReceiptLog.record)
    | _ => .whole

theorem separate : record.Separate := by simp [record, Record.Separate, Field.spares_defaulted]

theorem follows : record.codec.Follows outline := by
  have hlogs : ReceiptLog.record.codec.list.Follows (.list (.flat ReceiptLog.record)) :=
    ReceiptLog.follows.list
  exact independent.follows separate (by simp [record, Field.follows_defaulted, hlogs])

theorem injective_write : Function.Injective record.codec.write := by
  have haddress := Codec.injective_write_option Codec.injective_write_string
    fun _ => Value.noConfusion
  have hlogs := Codec.injective_write_list ReceiptLog.injective_write
  refine independent.injective_write ?_
  rintro ⟨⟩ ⟨⟩ hfields
  simpa [record, haddress, hlogs] using hfields

end TxReceipt

/-! ### Blocks -/

namespace BlockHeader

theorem separate : record.Separate := by simp [record, Record.Separate, Field.spares_defaulted]

theorem follows : record.codec.Follows (.flat record) :=
  independent.follows separate (by simp [record, Field.follows_defaulted])

theorem injective_write : Function.Injective record.codec.write := by
  refine independent.injective_write ?_
  rintro ⟨⟩ ⟨⟩ hfields
  simpa [record] using hfields

end BlockHeader

namespace FutureValidator

theorem separate : record.Separate := by simp [record, Record.Separate, Field.spares_defaulted]

theorem follows : record.codec.Follows (.flat record) :=
  independent.follows separate (by simp [record, Field.follows_defaulted])

theorem injective_write : Function.Injective record.codec.write := by
  refine independent.injective_write ?_
  rintro ⟨⟩ ⟨⟩ hfields
  simpa [record] using hfields

end FutureValidator

namespace BlockTransaction

theorem separate : record.Separate := by simp [record, Record.Separate, Field.spares_defaulted]

theorem follows : record.codec.Follows (.flat record) :=
  independent.follows separate (by simp [record, Field.follows_defaulted])

theorem injective_write : Function.Injective record.codec.write := by
  refine independent.injective_write ?_
  rintro ⟨⟩ ⟨⟩ hfields
  simpa [record] using hfields

end BlockTransaction

namespace Block

def outline : Outline :=
  .record record fun
    | "header" => .flat BlockHeader.record
    | "future_validator_info" => .list (.flat FutureValidator.record)
    | "transactions" => .list (.flat BlockTransaction.record)
    | _ => .whole

theorem separate : record.Separate := by simp [record, Record.Separate, Field.spares_defaulted]

theorem follows : record.codec.Follows outline := by
  have hheader : BlockHeader.record.codec.option.Follows (.flat BlockHeader.record) :=
    BlockHeader.follows.option
  have hvalidators :
      FutureValidator.record.codec.list.Follows (.list (.flat FutureValidator.record)) :=
    FutureValidator.follows.list
  have htransactions :
      BlockTransaction.record.codec.list.Follows (.list (.flat BlockTransaction.record)) :=
    BlockTransaction.follows.list
  exact independent.follows separate
    (by simp [record, Field.follows_defaulted, hheader, hvalidators, htransactions])

theorem injective_write : Function.Injective record.codec.write := by
  have hheader := Codec.injective_write_option BlockHeader.injective_write Record.write_ne_null
  have hvalidators := Codec.injective_write_list FutureValidator.injective_write
  have htransactions := Codec.injective_write_list BlockTransaction.injective_write
  refine independent.injective_write ?_
  rintro ⟨⟩ ⟨⟩ hfields
  simpa [record, hheader, hvalidators, htransactions] using hfields

end Block

namespace OnBlock

theorem separate : record.Separate := by simp [record, Record.Separate, Field.spares_defaulted]

theorem follows : record.codec.Follows (.flat record) :=
  independent.follows separate (by simp [record, Field.follows_defaulted])

theorem injective_write : Function.Injective record.codec.write := by
  refine independent.injective_write ?_
  rintro ⟨⟩ ⟨⟩ hfields
  simpa [record] using hfields

end OnBlock

/-! ### Intents -/

namespace Intent

theorem separate : record.Separate := by simp [record, Record.Separate, Field.spares_defaulted]

theorem follows : record.codec.Follows (.flat record) :=
  independent.follows separate (by simp [record, Field.follows_defaulted])

theorem injective_write : Function.Injective record.codec.write := by
  refine independent.injective_write ?_
  rintro ⟨⟩ ⟨⟩ hfields
  simpa [record] using hfields

end Intent

namespace IntentSolution

theorem separate : record.Separate := by simp [record, Record.Separate, Field.spares_defaulted]

theorem follows : record.codec.Follows (.flat record) :=
  independent.follows separate (by simp [record, Field.follows_defaulted])

theorem injective_write : Function.Injective record.codec.write := by
  refine independent.injective_write ?_
  rintro ⟨⟩ ⟨⟩ hfields
  simpa [record] using hfields

end IntentSolution

namespace Quote

theorem separate : record.Separate := by simp [record, Record.Separate, Field.spares_defaulted]

theorem follows : record.codec.Follows (.flat record) :=
  independent.follows separate (by simp [record, Field.follows_defaulted])

theorem injective_write : Function.Injective record.codec.write := by
  refine independent.injective_write ?_
  rintro ⟨⟩ ⟨⟩ hfields
  simpa [record] using hfields

end Quote

/-! ### Notifications -/

namespace Shape

/-- Where the payloads of a shape hold objects that become records. -/
def outline : Shape → Outline
  | .newTx => NewTx.outline
  | .block => Block.outline
  | .onBlock => .flat OnBlock.record
  | .txStatus => .flat TxStatus.record
  | .txReceipt => TxReceipt.outline
  | .intent => .flat Intent.record
  | .intentSolution => .flat IntentSolution.record
  | .quote => .flat Quote.record
  | .raw => .whole

theorem shape_of_decode {s : Shape} {payload : Value} {n : Notification}
    (hdecode : s.decode payload = .ok n) : n.shape = s := by
  cases s with
  | raw =>
    obtain rfl := Except.ok.inj hdecode
    rfl
  | _ =>
    obtain ⟨a, -, rfl⟩ := map_eq_ok_iff.mp hdecode
    rfl

/-- **The payloads of a shape may lose fields and gain others** along its outline. -/
theorem follows (s : Shape) : s.outline.Follows (fun payload => s.decode payload)
    Notification.write := by
  cases s with
  | newTx => exact NewTx.follows.map fun _ => rfl
  | block => exact Block.follows.map fun _ => rfl
  | onBlock => exact OnBlock.follows.map fun _ => rfl
  | txStatus => exact TxStatus.follows.map fun _ => rfl
  | txReceipt => exact TxReceipt.follows.map fun _ => rfl
  | intent => exact Intent.follows.map fun _ => rfl
  | intentSolution => exact IntentSolution.follows.map fun _ => rfl
  | quote => exact Quote.follows.map fun _ => rfl
  | raw => exact ⟨fun hread hthins => ⟨_, hthins ▸ hread, rfl⟩, fun hread hpads => hpads ▸ hread⟩

/-- The fields of notifications, and of the records inside them, are empty by default. -/
theorem defaults_empty (s : Shape) :
    ∀ w ∈ s.outline.defaults, w ∈ [.str "", .bool false, .null, .arr []] := by
  cases s <;> decide

end Shape

/-- **What is written of a notification tells it from all others of its shape.** -/
theorem Notification.eq_of_write {m n : Notification} (hshape : m.shape = n.shape)
    (hwrite : m.write = n.write) : m = n := by
  cases m <;> cases n <;> first | contradiction | refine congrArg _ ?_
  case newTx => exact NewTx.injective_write hwrite
  case block => exact Block.injective_write hwrite
  case onBlock => exact OnBlock.injective_write hwrite
  case txStatus => exact TxStatus.injective_write hwrite
  case txReceipt => exact TxReceipt.injective_write hwrite
  case intent => exact Intent.injective_write hwrite
  case intentSolution => exact IntentSolution.injective_write hwrite
  case quote => exact Quote.injective_write hwrite
  case raw => exact hwrite

namespace Decoders

variable {d : Decoders} {f : Feed} {s : Shape} {payload : Value} {n : Notification}

theorem decode_eq_ok_iff (hshape : d.shape? f = some s) :
    d.decode f payload = .ok n ↔ s.decode payload = .ok n := by
  have heq : d.decode f payload = (s.decode payload).mapError (.decode f) := by rw [decode, hshape]
  rw [heq]
  cases s.decode payload with
  | error e => exact ⟨fun h => by contradiction, fun h => by contradiction⟩
  | ok m => exact ⟨fun h => congrArg _ (Except.ok.inj h), fun h => congrArg _ (Except.ok.inj h)⟩

/-- A built-in feed has a decoder, and carries what the decoder gives. -/
theorem exists_shape? (hf : f ∈ Feed.builtin) :
    ∃ s, standard.shape? f = some s ∧ ∀ n : Notification, n.shape = s → f.Carries n := by
  have hsome : (standard.shape? f).isSome = true := by
    revert f
    decide
  obtain ⟨s, hshape⟩ := Option.isSome_iff_exists.mp hsome
  refine ⟨s, hshape, fun n hn => ?_⟩
  subst hn
  revert f
  cases n <;> simp only [Notification.shape, Feed.Carries] <;> decide

end Decoders

/-- **Every field is optional.** Let a payload of a built-in feed be decoded, and let any fields be
taken from it and from the objects inside it that become records. The payload is still decoded. The
notification is the one of which the same is written as before, except that the fields which were
taken have their defaults, and the defaults are empty. Fields that nobody knows may be added at the
same places, and nothing changes. -/
theorem every_field_is_optional {f : Feed} (hf : f ∈ Feed.builtin) {payload : Value}
    {n : Notification} (hdecode : Decoders.standard.decode f payload = .ok n) :
    f.Carries n ∧
      (∀ payload', n.shape.outline.Thins payload payload' →
        ∃ n', Decoders.standard.decode f payload' = .ok n' ∧
          ∀ m : Notification, m = n' ↔
            m.shape = n.shape ∧ m.write = n.shape.outline.fade payload' n.write) ∧
      (∀ w ∈ n.shape.outline.defaults, w ∈ [.str "", .bool false, .null, .arr []]) ∧
      ∀ payload', n.shape.outline.Pads payload payload' →
        Decoders.standard.decode f payload' = .ok n := by
  obtain ⟨s, hshape, hcarries⟩ := Decoders.exists_shape? hf
  have hread : s.decode payload = .ok n := (Decoders.decode_eq_ok_iff hshape).mp hdecode
  obtain rfl := Shape.shape_of_decode hread
  refine ⟨hcarries n rfl, fun payload' hthins => ?_, n.shape.defaults_empty,
    fun payload' hpads => ?_⟩
  · obtain ⟨n', hread', hwrite⟩ := n.shape.follows.thinned hread hthins
    refine ⟨n', (Decoders.decode_eq_ok_iff hshape).mpr hread', fun m => ?_⟩
    have hshape' : n'.shape = n.shape := Shape.shape_of_decode hread'
    constructor
    · rintro rfl
      exact ⟨hshape', hwrite⟩
    · rintro ⟨hsame, hwritten⟩
      exact Notification.eq_of_write (hsame.trans hshape'.symm) (hwritten.trans hwrite.symm)
  · exact (Decoders.decode_eq_ok_iff hshape).mpr (n.shape.follows.padded hread hpads)

/-- A field is found under another name that it answers to. -/
example : (Outline.flat Intent.record).fade (.obj [("dappAddress", .str "0xd")])
    (Intent.record.write ⟨"0xd", "0xs", "7", "swap", "now"⟩) =
      Intent.record.write ⟨"0xd", "", "", "", ""⟩ := by decide

namespace NewTx

/-- A transaction of which the hash, the region, the sender and the nonce are known. -/
def part : NewTx :=
  { blank with
    txHash := "0x01"
    txContents := some { TxContents.blank with sender := "0xaa", nonce := "0x1" }
    localRegion := true }

/-- The same without the region and the sender. -/
def lessPart : NewTx :=
  { blank with
    txHash := "0x01"
    txContents := some { TxContents.blank with nonce := "0x1" } }

end NewTx

/-- Fields are taken from a transaction and from its contents, or added to them. -/
theorem transaction_loses_and_gains_fields :
    Decoders.standard.decode .newTxs
      (.obj [("localRegion", .bool true),
        ("txContents", .obj [("from", .str "0xaa"), ("nonce", .str "0x1")]),
        ("txHash", .str "0x01")]) = .ok (.newTx .part) ∧
    Decoders.standard.decode .newTxs
      (.obj [("txContents", .obj [("nonce", .str "0x1")]), ("txHash", .str "0x01")]) =
        .ok (.newTx .lessPart) ∧
    Decoders.standard.decode .newTxs
      (.obj [("localRegion", .bool true), ("score", .null),
        ("txContents", .obj [("extra", .arr []), ("from", .str "0xaa"), ("nonce", .str "0x1")]),
        ("txHash", .str "0x01")]) = .ok (.newTx .part) := by
  have hdecode : Decoders.standard.decode .newTxs
      (.obj [("localRegion", .bool true),
        ("txContents", .obj [("from", .str "0xaa"), ("nonce", .str "0x1")]),
        ("txHash", .str "0x01")]) = .ok (.newTx .part) := by decide
  obtain ⟨-, hthinned, -, hpadded⟩ := every_field_is_optional (by decide) hdecode
  refine ⟨hdecode, ?_, ?_⟩
  · obtain ⟨n', hdecode', hn'⟩ := hthinned
      (.obj [("txContents", .obj [("nonce", .str "0x1")]), ("txHash", .str "0x01")])
      (.drop (.keep (.drop (.keep rfl .nil)) (.keep rfl .nil)))
    have hless : Notification.newTx .lessPart = n' := (hn' _).mpr ⟨rfl, by decide⟩
    rw [hless]
    exact hdecode'
  · exact hpadded _ (.keep rfl (.add (by decide)
      (.keep (.add (by decide) (.keep rfl (.keep rfl .nil))) (.keep rfl .nil))))

end FeedLink
