import FeedLink.Client.Channel
import FeedLink.Grpc.Gateway
import FeedLink.Socket.Handler
import FeedLink.Socket.Handshake
import FeedLink.Socket.Link

/-!
# Connecting

A network answers dials. A dial that succeeds yields a handler in its first state; everything that
can be known to be wrong before is refused without one. `Network.connect` picks the binding by the
kind of the endpoint that a configuration selects.
-/

namespace FeedLink

/-- How a dial ends. -/
inductive DialAnswer (σ : Type) where
  | opened (s : σ)
  | refused (reason : String)
  /-- Nothing was heard within the time of a handshake. -/
  | silent

/-- What can be dialed, where handlers have states of type `σ`. -/
structure Network (σ : Type) where
  socket : Socket.Handshake → DialAnswer σ
  gateway : Uri → DialAnswer σ
  /-- The handlers of the connections that were opened. -/
  handler : EndpointKind → FeedHandler σ
  /-- What a channel is given until it is closed or its reader is told to stop. -/
  deliveries : Channel → StateM σ (List Delivery)

/-- Why connecting failed. -/
inductive ConnectError where
  /-- Nothing was dialed, for this reason. -/
  | refused (e : HandlerError)
  /-- The WebSocket at a URL could not be dialed. -/
  | socket (url : String) (fault : Socket.DialFault)
  /-- The address of a gateway is not a URI. -/
  | address (address : String) (fault : UriError)
  /-- The gateway at an address could not be dialed. -/
  | gateway (address : String)

namespace ConnectError

/-- What is said of an address that is not a URI, whatever is wrong with it. -/
def invalidAddress : String := "invalid URI"

/-- What is said of a gateway that could not be dialed. -/
def gatewayFault : String := "transport error"

def toHandlerError : ConnectError → HandlerError
  | .refused e => e
  | .socket url fault => .transport (.dial url fault.reason)
  | .address given _ => .config (.invalidUrl given invalidAddress)
  | .gateway given => .transport (.dial given gatewayFault)

end ConnectError

namespace Network

variable {σ : Type} (net : Network σ)

/-- Dials a WebSocket. -/
def dialSocket (s : Socket.LinkSettings) (e : Endpoint) : Except ConnectError σ := do
  let handshake ← (Socket.Handshake.ofEndpoint e).mapError (.socket e.url)
  match net.socket handshake with
  | .opened s => return s
  | .refused reason => throw (.socket e.url (.refused reason))
  | .silent => throw (.socket e.url (.late s.handshake))

/-- Connects to the WebSocket that a configuration selects. -/
def connectSocket (c : Config) (version : String) : Except ConnectError σ := do
  let s ← (Socket.Settings.ofConfig c version .standard).mapError .refused
  net.dialSocket (.ofConfig c) s.endpoint

/-- Dials the gateway that a configuration selects. The metadata is made afterwards. -/
def dialGateway (c : Config) (version : String) : Except ConnectError σ := do
  let (kind, address) ← c.endpoint.mapError fun e => .refused (.config e)
  if kind ≠ .gatewayGrpc then
    throw (.refused (.unsupported ("a " ++ kind.display ++ " endpoint on the gRPC handler")))
  let uri ← (Grpc.Gateway.uri address).mapError (.address address)
  match net.gateway uri with
  | .opened s =>
    let _ ← (Grpc.callMetadata c version).mapError fun e => .refused (.config e)
    return s
  | .refused _ | .silent => throw (.gateway address)

/-- Connects to the gateway that a configuration selects. -/
def connectGateway (c : Config) (version : String) : Except ConnectError σ := do
  c.validate.mapError fun e => .refused (.config e)
  net.dialGateway c version

/-- Connects to the endpoint that a configuration selects. -/
def connect (c : Config) (version : String) : Except ConnectError (Client σ × σ) := do
  c.validate.mapError fun e => .refused (.config e)
  let (kind, _) ← c.endpoint.mapError fun e => .refused (.config e)
  let s ← match kind with
    | .cloudApi | .gatewaySocket => net.connectSocket c version
    | .gatewayGrpc => net.connectGateway c version
  return (⟨net.handler kind, c.network⟩, s)

end Network

namespace Network

/-- What is said where no host can be reached. -/
def unreachableReason : String := "IO error: Network is unreachable (os error 101)"

/-- The network of a machine that has none: no dial succeeds, so that there never is a handler. -/
def unreachable : Network Empty where
  socket _ := .refused unreachableReason
  gateway _ := .refused unreachableReason
  handler kind := {
    kind
    subscribe _ _ _ := fun s => s.elim
    request _ _ := fun s => s.elim
    unsubscribe _ := fun s => s.elim
    close := fun s => s.elim
    subscriptionId? s := s.elim }
  deliveries _ := fun s => s.elim

end Network

end FeedLink
