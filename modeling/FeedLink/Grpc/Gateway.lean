import FeedLink.Grpc.Metadata
import FeedLink.Grpc.Payload
import FeedLink.Grpc.Status
import FeedLink.Uri

/-!
# The procedures of a gateway

A gateway streams four feeds and sends transactions. `Gateway.openCall` and `Gateway.requestCall`
turn a feed or a method with its parameters into the procedure to call and the message to call it
with, or into the status with which the call ends before it was made. `Stream.payloads?` and
`Gateway.reply?` read what comes back. `Gateway.uri` is where a gateway is dialed.
-/

namespace FeedLink.Grpc

open Json

/-- The procedures that answer with a stream of transactions or of blocks. -/
inductive Stream where
  | newTxs
  | pendingTxs
  | newBlocks
  | bdnBlocks
deriving DecidableEq, Repr

namespace Stream

/-- The stream that carries a feed. -/
def ofFeed? (feed : Feed) : Option Stream :=
  if feed = .newTxs then some .newTxs
  else if feed = .pendingTxs then some .pendingTxs
  else if feed = .newBlocks then some .newBlocks
  else if feed = .bdnBlocks then some .bdnBlocks
  else none

def path : Stream → String
  | .newTxs => "/gateway.Gateway/NewTxs"
  | .pendingTxs => "/gateway.Gateway/PendingTxs"
  | .newBlocks => "/gateway.Gateway/NewBlocks"
  | .bdnBlocks => "/gateway.Gateway/BdnBlocks"

/-- The message that opens a stream. -/
def message (params : Value) : Stream → Except DecodeError (List UInt8)
  | .newTxs | .pendingTxs => (TxsRequest.ofParams params).map TxsRequest.schema.encode
  | .newBlocks | .bdnBlocks => (BlocksRequest.ofParams params).map BlocksRequest.schema.encode

/-- The payloads of a frame, if it is one. -/
def payloads? (frame : List UInt8) : Stream → Option (List Value)
  | .newTxs | .pendingTxs => (TxsReply.schema.decode? frame).map TxsReply.payloads
  | .newBlocks | .bdnBlocks => (BlocksReply.schema.decode? frame).map fun m => [m.payload]

end Stream

/-- A call of a procedure. -/
structure ProcedureCall where
  path : String
  message : List UInt8
deriving DecidableEq, Repr

namespace Gateway

/-- Does a text name a scheme, or what looks like one? -/
def namesScheme : List Char → Bool
  | [] => false
  | c :: rest => "://".toList.isPrefixOf (c :: rest) || namesScheme rest

/-- The URI of a gateway, whose address may leave out the scheme. -/
def uri (address : String) : Except UriError Uri :=
  Uri.parse false (if namesScheme address.toList then address else "http://" ++ address)

/-- The only method that is not a stream. -/
def sendTxMethod : String := "blxr_tx"

def sendTxPath : String := "/gateway.Gateway/BlxrTx"

/-- How opening a feed ends that no stream carries. -/
def notStreamed (feed : Feed) : Status := .unimplemented (feed.name ++ " feed over gRPC")

/-- How calling a method ends that the gateway does not have. -/
def notOffered (method : String) : Status := .unimplemented (method ++ " request over gRPC")

/-- How a call ends whose parameters cannot be understood. -/
def invalidParams (e : DecodeError) : Status := .invalidArgument e.message

/-- The call that opens the stream of a feed. -/
def openCall (feed : Feed) (params : Value) : Except Status ProcedureCall :=
  match Stream.ofFeed? feed with
  | none => .error (notStreamed feed)
  | some stream => ((stream.message params).mapError invalidParams).map (⟨stream.path, ·⟩)

/-- The call that a method comes to. -/
def requestCall (method : String) (params : Value) : Except Status ProcedureCall :=
  if method = sendTxMethod then
    ((SendTxRequest.ofParams params).mapError invalidParams).map
      fun m => ⟨sendTxPath, SendTxRequest.schema.encode m⟩
  else .error (notOffered method)

/-- The value in a reply, if it is one. -/
def reply? (message : List UInt8) : Option Value :=
  (SendTxReply.schema.decode? message).map SendTxReply.toValue

end Gateway

end FeedLink.Grpc
