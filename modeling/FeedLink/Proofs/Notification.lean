import FeedLink.Cli.Watch
import FeedLink.Proofs.Json.Records

/-!
# Notifications that are read back

Every record of a notification writes its fields under the names under which it reads them, and a
field that is missing is as good as one that has its default, so a name that were written in one way
and read in another would lose a field without a word. It does not happen: the value of a
notification, and the line that a watcher prints, is read on the feed of the notification as the
notification itself. A feed that has no decoder brings its payloads as they are.

The only values inside a notification whose objects have fields of the sender's choice are the
entries of an access list. Like all values that come from a text they are in order.

## Main definitions

* `Feed.Carries` — the notifications of a feed
* `Notification.InOrder` — the objects of an access list have their fields in order

## Main results

* `Shape.decode_toValue` — a notification is read back in its own shape
* `notifications_read_back`
-/

namespace FeedLink

open Json
open Record (restores_nil_iff restores_defaulted_iff restores_also_iff)

/-! ### Transactions -/

namespace TxContents

/-- The objects of the access list have their fields in order. -/
def InOrder (t : TxContents) : Prop := ∀ v ∈ t.accessList, v.sorted = v

instance (t : TxContents) : Decidable t.InOrder := inferInstanceAs (Decidable (∀ v ∈ _, _))

theorem independent : record.Independent :=
  ⟨by decide, by simp [record, Field.commutes_defaulted], by decide⟩

theorem readsBack {t : TxContents} (horder : t.InOrder) : record.codec.ReadsBack t := by
  have haccess : Codec.value.list.ReadsBack t.accessList :=
    Codec.readsBack_list fun v hv => Codec.readsBack_value (horder v hv)
  refine independent.readsBack ?_
  simp [record, blank, restores_defaulted_iff, restores_nil_iff, haccess]

end TxContents

namespace NewTx

theorem independent : record.Independent :=
  ⟨by decide, by simp [record, Field.commutes_defaulted], by decide⟩

theorem readsBack {n : NewTx} (horder : ∀ t ∈ n.txContents, t.InOrder) :
    record.codec.ReadsBack n := by
  have hcontents : TxContents.record.codec.option.ReadsBack n.txContents :=
    Codec.readsBack_option (fun t ht => TxContents.readsBack (horder t ht)) Record.toValue_ne_null
  refine independent.readsBack ?_
  simp [record, blank, restores_defaulted_iff, restores_nil_iff, hcontents]

end NewTx

namespace TxStatus

theorem independent : record.Independent :=
  ⟨by decide, by simp [record, Field.commutes_defaulted], by decide⟩

theorem readsBack (n : TxStatus) : record.codec.ReadsBack n := by
  refine independent.readsBack ?_
  simp [record, blank, restores_defaulted_iff, restores_also_iff, restores_nil_iff]

end TxStatus

namespace ReceiptLog

theorem independent : record.Independent :=
  ⟨by decide, by simp [record, Field.commutes_defaulted], by decide⟩

theorem readsBack (l : ReceiptLog) : record.codec.ReadsBack l := by
  refine independent.readsBack ?_
  simp [record, blank, restores_defaulted_iff, restores_nil_iff]

end ReceiptLog

namespace TxReceipt

theorem independent : record.Independent :=
  ⟨by decide, by simp [record, Field.commutes_defaulted], by decide⟩

theorem readsBack (n : TxReceipt) : record.codec.ReadsBack n := by
  have hlogs : ReceiptLog.record.codec.list.ReadsBack n.logs :=
    Codec.readsBack_list fun l _ => ReceiptLog.readsBack l
  refine independent.readsBack ?_
  simp [record, blank, restores_defaulted_iff, restores_nil_iff, hlogs]

end TxReceipt

/-! ### Blocks -/

namespace BlockHeader

theorem independent : record.Independent :=
  ⟨by decide, by simp [record, Field.commutes_defaulted], by decide⟩

theorem readsBack (h : BlockHeader) : record.codec.ReadsBack h := by
  refine independent.readsBack ?_
  simp [record, blank, restores_defaulted_iff, restores_nil_iff]

end BlockHeader

namespace FutureValidator

theorem independent : record.Independent :=
  ⟨by decide, by simp [record, Field.commutes_defaulted], by decide⟩

theorem readsBack (v : FutureValidator) : record.codec.ReadsBack v := by
  refine independent.readsBack ?_
  simp [record, blank, restores_defaulted_iff, restores_nil_iff]

end FutureValidator

namespace BlockTransaction

theorem independent : record.Independent :=
  ⟨by decide, by simp [record, Field.commutes_defaulted], by decide⟩

theorem readsBack (t : BlockTransaction) : record.codec.ReadsBack t := by
  refine independent.readsBack ?_
  simp [record, blank, restores_defaulted_iff, restores_nil_iff]

end BlockTransaction

namespace Block

theorem independent : record.Independent :=
  ⟨by decide, by simp [record, Field.commutes_defaulted], by decide⟩

theorem readsBack (n : Block) : record.codec.ReadsBack n := by
  have hheader : BlockHeader.record.codec.option.ReadsBack n.header :=
    Codec.readsBack_option (fun h _ => BlockHeader.readsBack h) Record.toValue_ne_null
  have hvalidators : FutureValidator.record.codec.list.ReadsBack n.futureValidators :=
    Codec.readsBack_list fun v _ => FutureValidator.readsBack v
  have htransactions : BlockTransaction.record.codec.list.ReadsBack n.transactions :=
    Codec.readsBack_list fun t _ => BlockTransaction.readsBack t
  refine independent.readsBack ?_
  simp [record, blank, restores_defaulted_iff, restores_nil_iff, hheader, hvalidators,
    htransactions]

end Block

namespace OnBlock

theorem independent : record.Independent :=
  ⟨by decide, by simp [record, Field.commutes_defaulted], by decide⟩

theorem readsBack (n : OnBlock) : record.codec.ReadsBack n := by
  refine independent.readsBack ?_
  simp [record, blank, restores_defaulted_iff, restores_nil_iff]

end OnBlock

/-! ### Intents -/

namespace Intent

theorem independent : record.Independent :=
  ⟨by decide, by simp [record, Field.commutes_defaulted], by decide⟩

theorem readsBack (n : Intent) : record.codec.ReadsBack n := by
  refine independent.readsBack ?_
  simp [record, blank, restores_defaulted_iff, restores_also_iff, restores_nil_iff]

end Intent

namespace IntentSolution

theorem independent : record.Independent :=
  ⟨by decide, by simp [record, Field.commutes_defaulted], by decide⟩

theorem readsBack (n : IntentSolution) : record.codec.ReadsBack n := by
  refine independent.readsBack ?_
  simp [record, blank, restores_defaulted_iff, restores_also_iff, restores_nil_iff]

end IntentSolution

namespace Quote

theorem independent : record.Independent :=
  ⟨by decide, by simp [record, Field.commutes_defaulted], by decide⟩

theorem readsBack (n : Quote) : record.codec.ReadsBack n := by
  refine independent.readsBack ?_
  simp [record, blank, restores_defaulted_iff, restores_nil_iff]

end Quote

/-! ### Notifications -/

/-- The notifications of a feed: what a built-in feed carries has the type of the feed, any other
feed carries payloads as they come. -/
def Feed.Carries (f : Feed) : Notification → Prop
  | .newTx _ => f = newTxs ∨ f = pendingTxs
  | .block _ => f = newBlocks ∨ f = bdnBlocks
  | .onBlock _ => f = ethOnBlock
  | .txStatus _ => f = Feed.txStatus
  | .txReceipt _ => f = txReceipts
  | .intent _ => f = userIntents
  | .intentSolution _ => f = userIntentSolutions
  | .quote _ => f = quotes
  | .raw _ => f ∉ builtin

/-- The objects of an access list, or of a payload that was not read, have their fields in
order. -/
def Notification.InOrder : Notification → Prop
  | .newTx n => ∀ t ∈ n.txContents, t.InOrder
  | .raw payload => payload.sorted = payload
  | _ => True

/-- A built-in feed has a type of its own: it carries all notifications of one shape. -/
theorem Feed.exists_carries {f : Feed} (hf : f ∈ builtin) :
    ∃ s, s ≠ Shape.raw ∧ ∀ n : Notification, f.Carries n ↔ n.shape = s := by
  refine ⟨(Decoders.standard.shape? f).getD .raw, ?_, fun n => ?_⟩
  · revert f
    decide
  · cases n <;>
    · simp only [Carries, Notification.shape]
      revert f
      decide

namespace Decoders

theorem shape?_of_notMem {f : Feed} (hf : f ∉ Feed.builtin) : standard.shape? f = none := by
  have hfeeds : standard.shapes.map Prod.fst = Feed.builtin := rfl
  refine List.lookup_eq_none_iff.mpr fun entry hentry => bne_iff_ne.mpr fun heq => hf ?_
  rw [heq, ← hfeeds]
  exact List.mem_map_of_mem hentry

/-- A feed without a decoder brings its payloads as they are. -/
theorem decode_of_shape?_eq_none {d : Decoders} {f : Feed} (hf : d.shape? f = none)
    (payload : Value) : d.decode f payload = .ok (.raw payload) := by
  rw [decode, hf]

/-- A payload that is read in the shape of its feed is decoded. -/
theorem decode_of_shape? {d : Decoders} {f : Feed} {s : Shape} {payload : Value}
    {n : Notification} (hshape : d.shape? f = some s) (hread : s.decode payload = .ok n) :
    d.decode f payload = .ok n := by
  rw [decode, hshape]
  exact congrArg (Except.mapError (HandlerError.decode f)) hread

theorem decode_of_carries {f : Feed} {n : Notification} {payload : Value}
    (hcarries : f.Carries n) (hread : n.shape.decode payload = .ok n) :
    standard.decode f payload = .ok n := by
  cases n with
  | newTx | block => obtain rfl | rfl := hcarries <;> exact decode_of_shape? rfl hread
  | onBlock | txStatus | txReceipt | intent | intentSolution | quote =>
    obtain rfl := hcarries
    exact decode_of_shape? rfl hread
  | raw v =>
    simpa [decode_of_shape?_eq_none (shape?_of_notMem hcarries), Notification.shape, Shape.decode]
      using hread

end Decoders

/-- **A notification is read back** in its own shape. -/
theorem Shape.decode_toValue {n : Notification} (horder : n.InOrder) :
    n.shape.decode n.toValue = .ok n := by
  cases n <;> simp only [Notification.shape, decode]
  case newTx n => exact (NewTx.readsBack horder).map Notification.newTx
  case block n => exact n.readsBack.map Notification.block
  case onBlock n => exact n.readsBack.map Notification.onBlock
  case txStatus n => exact n.readsBack.map Notification.txStatus
  case txReceipt n => exact n.readsBack.map Notification.txReceipt
  case intent n => exact n.readsBack.map Notification.intent
  case intentSolution n => exact n.readsBack.map Notification.intentSolution
  case quote n => exact n.readsBack.map Notification.quote
  case raw payload => exact congrArg (Except.ok ∘ Notification.raw) horder

/-- **Notifications are read back.** What a feed carries is written as a value that the decoder of
the feed reads as the same notification, and so is the line that a watcher prints, if its numbers
are integers and it nests no deeper than a text may. Every built-in feed carries all the
notifications of a type of its own. A feed without a decoder brings its payloads as they are. -/
theorem notifications_read_back :
    (∀ (f : Feed) (n : Notification), f.Carries n → n.InOrder →
      Decoders.standard.decode f n.toValue = .ok n ∧
        (n.toValue.fits Document.maxLevels = true →
          (Value.parse (Cli.lineOf n)).map (Decoders.standard.decode f) = .ok (.ok n))) ∧
      (∀ f ∈ Feed.builtin, ∃ s, s ≠ Shape.raw ∧ ∀ n : Notification, f.Carries n ↔ n.shape = s) ∧
      (∀ f ∉ Feed.builtin, Decoders.standard.shape? f = none) ∧
      ∀ (d : Decoders) (f : Feed) (payload : Value), d.shape? f = none →
        d.decode f payload = .ok (.raw payload) := by
  refine ⟨fun f n hcarries horder => ?_, fun f hf => Feed.exists_carries hf,
    fun f hf => Decoders.shape?_of_notMem hf, fun d f payload hf =>
      Decoders.decode_of_shape?_eq_none hf payload⟩
  have hdecode := Decoders.decode_of_carries hcarries (Shape.decode_toValue horder)
  refine ⟨hdecode, fun hfits => ?_⟩
  have hline : Value.parse (Cli.lineOf n) = .ok n.toValue := by
    rw [Cli.lineOf, Value.parse_render n.toValue hfits, Notification.toValue, Value.sorted_sorted]
  rw [hline]
  exact congrArg Except.ok hdecode

namespace NewTx

/-- A transaction with an access list. -/
def withAccessList : NewTx :=
  { blank with
    txHash := "0xabc"
    txContents := some { TxContents.blank with
      accessList := [
        .obj [("address", .str "0xA"), ("storageKeys", .arr [.str "\n\"", .null])], .bool true]
      sender := "0xB" } }

end NewTx

theorem pending_tx_reads_back :
    Feed.pendingTxs.Carries (.newTx .withAccessList) ∧
      Decoders.standard.decode .pendingTxs (Notification.newTx .withAccessList).toValue =
        .ok (.newTx .withAccessList) ∧
      (Value.parse (Cli.lineOf (.newTx .withAccessList))).map
        (Decoders.standard.decode .pendingTxs) = .ok (.ok (.newTx .withAccessList)) ∧
      (∃ s, ∀ n : Notification, Feed.quotes.Carries n ↔ n.shape = s) ∧
      Decoders.standard.shape? ⟨"gasFeed"⟩ = none ∧
      Decoders.standard.decode ⟨"gasFeed"⟩ (.bool true) = .ok (.raw (.bool true)) := by
  have hcarries : Feed.pendingTxs.Carries (.newTx .withAccessList) := .inr rfl
  have horder : (Notification.newTx .withAccessList).InOrder := by
    intro t ht
    obtain rfl := Option.some.inj ht
    decide
  have hread := notifications_read_back.1 _ _ hcarries horder
  obtain ⟨s, -, hs⟩ := notifications_read_back.2.1 .quotes (by decide)
  have hnone := notifications_read_back.2.2.1 ⟨"gasFeed"⟩ (by decide)
  exact ⟨hcarries, hread.1, hread.2 (by decide), ⟨s, hs⟩, hnone,
    notifications_read_back.2.2.2 _ _ _ hnone⟩

end FeedLink
