import FeedLink.Error
import FeedLink.Notification.Transaction
import FeedLink.Notification.Block
import FeedLink.Notification.Intent

/-!
# Notifications and their decoders

A subscriber is sent notifications of the type of its feed. `Decoders` maps each feed to the shape
its payloads are read as; a feed without a decoder, and one registered as `raw`, is delivered as it
came.
-/

namespace FeedLink

open Json

/-- What a subscriber is sent. -/
inductive Notification where
  | newTx (n : NewTx)
  | block (n : Block)
  | onBlock (n : OnBlock)
  | txStatus (n : TxStatus)
  | txReceipt (n : TxReceipt)
  | intent (n : Intent)
  | intentSolution (n : IntentSolution)
  | quote (n : Quote)
  /-- A payload of a feed whose shape is not known. -/
  | raw (payload : Value)
deriving DecidableEq

/-- The shapes in which a payload can be read. -/
inductive Shape where
  | newTx
  | block
  | onBlock
  | txStatus
  | txReceipt
  | intent
  | intentSolution
  | quote
  | raw
deriving DecidableEq, Repr, Inhabited

namespace Shape

def all : List Shape :=
  [.newTx, .block, .onBlock, .txStatus, .txReceipt, .intent, .intentSolution, .quote, .raw]

def name : Shape → String
  | .newTx => "NewTx"
  | .block => "Block"
  | .onBlock => "OnBlock"
  | .txStatus => "TxStatus"
  | .txReceipt => "TxReceipt"
  | .intent => "Intent"
  | .intentSolution => "IntentSolution"
  | .quote => "Quote"
  | .raw => "Raw"

/-- The shape with a name; any other name is `raw`. -/
def ofName (name : String) : Shape := (all.find? (·.name = name)).getD .raw

/-- Reads a payload in a shape. -/
def decode (payload : Value) : Shape → Except DecodeError Notification
  | .newTx => (NewTx.record.codec.ofValue payload).map .newTx
  | .block => (Block.record.codec.ofValue payload).map .block
  | .onBlock => (OnBlock.record.codec.ofValue payload).map .onBlock
  | .txStatus => (TxStatus.record.codec.ofValue payload).map .txStatus
  | .txReceipt => (TxReceipt.record.codec.ofValue payload).map .txReceipt
  | .intent => (Intent.record.codec.ofValue payload).map .intent
  | .intentSolution => (IntentSolution.record.codec.ofValue payload).map .intentSolution
  | .quote => (Quote.record.codec.ofValue payload).map .quote
  | .raw => .ok (.raw payload)

end Shape

namespace Notification

/-- The shape of a notification. -/
def shape : Notification → Shape
  | .newTx _ => .newTx
  | .block _ => .block
  | .onBlock _ => .onBlock
  | .txStatus _ => .txStatus
  | .txReceipt _ => .txReceipt
  | .intent _ => .intent
  | .intentSolution _ => .intentSolution
  | .quote _ => .quote
  | .raw _ => .raw

/-- A notification as a value, every field present and in the order of its declaration. -/
def write : Notification → Value
  | .newTx n => NewTx.record.write n
  | .block n => Block.record.write n
  | .onBlock n => OnBlock.record.write n
  | .txStatus n => TxStatus.record.write n
  | .txReceipt n => TxReceipt.record.write n
  | .intent n => Intent.record.write n
  | .intentSolution n => IntentSolution.record.write n
  | .quote n => Quote.record.write n
  | .raw payload => payload

/-- A notification as a value whose objects list their fields in ascending order. -/
def toValue (n : Notification) : Value := n.write.sorted

end Notification

/-- What a callback is given: a notification, or why there is none. -/
abbrev Delivery := Except HandlerError Notification

/-- Which shape the payloads of each feed have. The first entry of a feed counts. -/
structure Decoders where
  shapes : List (Feed × Shape)
deriving DecidableEq, Repr, Inhabited

namespace Decoders

/-- No decoders: every payload is delivered as it came. -/
def empty : Decoders := ⟨[]⟩

/-- The decoders of the built-in feeds. -/
def standard : Decoders := ⟨[
  (.newTxs, .newTx), (.pendingTxs, .newTx), (.newBlocks, .block), (.bdnBlocks, .block),
  (.ethOnBlock, .onBlock), (.txStatus, .txStatus), (.txReceipts, .txReceipt),
  (.userIntents, .intent), (.userIntentSolutions, .intentSolution), (.quotes, .quote)]⟩

/-- Registers the decoder of a feed, in the place of an older one. -/
def register (d : Decoders) (feed : Feed) (shape : Shape) : Decoders := ⟨(feed, shape) :: d.shapes⟩

/-- The shape registered for a feed. -/
def shape? (d : Decoders) (feed : Feed) : Option Shape := d.shapes.lookup feed

/-- Has the feed a decoder? -/
def contains (d : Decoders) (feed : Feed) : Bool := (d.shape? feed).isSome

/-- Decodes a payload of a feed. -/
def decode (d : Decoders) (feed : Feed) (payload : Value) : Delivery :=
  match d.shape? feed with
  | some shape => (shape.decode payload).mapError (.decode feed)
  | none => .ok (.raw payload)

end Decoders

end FeedLink
