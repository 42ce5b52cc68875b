/-!
# Endpoints and connections

A handler talks to one endpoint, of one of three kinds, over a connection whose state moves along

```text
Connected → Reconnecting → Resubscribing → Connected
                 ↓
               Failed
any → Closed
```
-/

namespace FeedLink

/-- Which endpoint a handler talks to. -/
inductive EndpointKind where
  /-- A WebSocket to the cloud API. -/
  | cloudApi
  /-- A WebSocket to a gateway of one's own. -/
  | gatewaySocket
  /-- gRPC to a gateway of one's own. -/
  | gatewayGrpc
deriving DecidableEq, Repr, Inhabited

namespace EndpointKind

/-- The kinds in the order in which a configuration prefers them. -/
def all : List EndpointKind := [.cloudApi, .gatewaySocket, .gatewayGrpc]

def display : EndpointKind → String
  | .cloudApi => "cloud-api-ws"
  | .gatewaySocket => "gateway-ws"
  | .gatewayGrpc => "gateway-grpc"

def isCloudApi (k : EndpointKind) : Bool := k = .cloudApi

def isGateway (k : EndpointKind) : Bool := k = .gatewaySocket || k = .gatewayGrpc

end EndpointKind

/-- The life of a handler's connection. -/
inductive ConnectionState where
  | disconnected
  | connected
  | reconnecting
  | resubscribing
  /-- The connection was lost for good. -/
  | failed
  /-- The handler was closed. -/
  | closed
deriving DecidableEq, Repr, Inhabited

namespace ConnectionState

def all : List ConnectionState :=
  [.disconnected, .connected, .reconnecting, .resubscribing, .failed, .closed]

def display : ConnectionState → String
  | .disconnected => "disconnected"
  | .connected => "connected"
  | .reconnecting => "reconnecting"
  | .resubscribing => "resubscribing"
  | .failed => "failed"
  | .closed => "closed"

/-- Can the connection never carry anything again? -/
def isTerminal (s : ConnectionState) : Bool := s = .failed || s = .closed

end ConnectionState

/-- Where to dial, and what to present there. -/
structure Endpoint where
  url : String
  headers : List (String × String)
deriving DecidableEq, Repr, Inhabited

end FeedLink
