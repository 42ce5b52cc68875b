import FeedLink.Client.Params
import FeedLink.FeedHandler
import FeedLink.Text.Quoted

/-!
# Clients

A client is a handler together with the network that it was configured for. What it offers comes in
two layers: anything can be subscribed to and requested with parameters as they are, and each feed
and each request that the services are known for has an operation of its own, which checks its rules
before anything reaches the handler.
-/

namespace FeedLink

open Json

/-- A client of a handler whose state is a `σ`. -/
structure Client (σ : Type) where
  handler : FeedHandler σ
  /-- The blockchain network that the handler was configured for. -/
  network : String

namespace Client

variable {σ : Type} (c : Client σ)

def kind : EndpointKind := c.handler.kind

/-- How messages for developers name a kind. -/
def kindName : EndpointKind → String
  | .cloudApi => "CloudApiWs"
  | .gatewaySocket => "GatewayWs"
  | .gatewayGrpc => "GatewayGrpc"

/-- How messages for developers show a client. -/
def display : String :=
  "Client \x7b kind: " ++ kindName c.kind ++ ", network: " ++ Quoted.quote c.network ++ " \x7d"

/-! ## Anything with parameters as they are -/

def subscribe (feed : Feed) (params : Value) (callback : Callback) : Exchange σ Unit :=
  c.handler.subscribe feed params callback

def request (method : String) (params : Value) : Exchange σ Value :=
  c.handler.request method params

def unsubscribe (feed : Feed) : Exchange σ Unit := c.handler.unsubscribe feed

def close : Exchange σ Unit := c.handler.close

def subscriptionId? (s : σ) (feed : Feed) : Option SubscriptionId :=
  c.handler.subscriptionId? s feed

/-! ## Rules -/

/-- Refuses an operation that a kind of handler does not have. -/
def refuseKind (what only : String) : HandlerError :=
  .unsupported (what ++ " on a " ++ c.kind.display ++ " handler (" ++ only ++ " only)")

def requireCloudApi (what : String) : Exchange σ Unit :=
  if c.kind.isCloudApi then pure () else throw (c.refuseKind what "cloud API")

def requireGateway (what : String) : Exchange σ Unit :=
  if c.kind.isGateway then pure () else throw (c.refuseKind what "gateway")

def requireKind (kind : EndpointKind) (what : String) : Exchange σ Unit :=
  if c.kind = kind then pure () else throw (c.refuseKind what kind.display)

/-- Refuses a field that is empty. -/
def requireField (field : String) (present : Bool) : Exchange σ Unit :=
  if present then pure () else throw (.invalidParams (field ++ " is required"))

end Client

end FeedLink
