import FeedLink.Duration
import FeedLink.Feed
import FeedLink.RemoteError

/-!
# Errors

Three layers, each with its causes and their wording: the transport, the configuration, and the
handler, whose errors are the ones that callers see.
-/

namespace FeedLink

open Json

/-- What goes wrong on a connection or while one is dialed. -/
inductive TransportError where
  /-- The connection is closed, by either side. -/
  | closed
  | dial (url reason : String)
  /-- The socket failed underneath the connection. -/
  | reset (reason : String)
  /-- A protocol error that leaves the socket usable. -/
  | webSocket (reason : String)
  | grpc (reason : String)
  /-- More was sent than the queue holds, and the connection was closed for it. -/
  | queueFull
deriving DecidableEq, Repr

namespace TransportError

def message : TransportError → String
  | .closed => "connection closed"
  | .dial url reason => "failed to dial " ++ url ++ ": " ++ reason
  | .reset reason => "connection reset: " ++ reason
  | .webSocket reason => "WebSocket error: " ++ reason
  | .grpc reason => "gRPC error: " ++ reason
  | .queueFull => "outbound queue full, connection closed"

/-- Is the connection gone, so that another one may be dialed? The wording plays no part. -/
def isClosed : TransportError → Bool
  | .closed | .queueFull | .reset _ => true
  | .dial _ _ | .webSocket _ | .grpc _ => false

end TransportError

/-- Why a configuration cannot be used. -/
inductive ConfigError where
  | noEndpoint
  | noCredentials
  | invalidUrl (url reason : String)
  | read (path reason : String)
  | parse (path reason : String)
deriving DecidableEq, Repr

namespace ConfigError

def message : ConfigError → String
  | .noEndpoint => "either a cloud API URL or a gateway URL must be provided"
  | .noCredentials => "either an auth header or an account id and secret must be provided"
  | .invalidUrl url reason => "invalid endpoint URL " ++ url ++ ": " ++ reason
  | .read path reason => "failed to read config " ++ path ++ ": " ++ reason
  | .parse path reason => "failed to parse config " ++ path ++ ": " ++ reason

end ConfigError

/-- What callers of a handler are told. -/
inductive HandlerError where
  /-- No connection is attached: none yet, none at present, or never again. -/
  | notConnected
  | alreadySubscribed (feed : Feed)
  | notSubscribed (feed : Feed)
  /-- The server answered with an error. -/
  | remote (e : RemoteError)
  /-- No reply came in time. -/
  | timeout (what : String) (after : Duration)
  /-- A notification does not have the shape of its feed. -/
  | decode (feed : Feed) (cause : DecodeError)
  /-- The operation was dropped without a reply, for instance with its connection. -/
  | noResponse
  | unexpectedReply (what : String)
  /-- Redialing was given up. -/
  | reconnectFailed (elapsed : Duration) (last : TransportError)
  | transport (e : TransportError)
  | unsupported (what : String)
  /-- Parameters that were refused before anything was sent. -/
  | invalidParams (reason : String)
  | serialization (cause : DecodeError)
  | config (e : ConfigError)
deriving DecidableEq

namespace HandlerError

def message : HandlerError → String
  | .notConnected => "connection not established"
  | .alreadySubscribed feed => "already subscribed to " ++ feed.name
  | .notSubscribed feed => "feed " ++ feed.name ++ " not subscribed"
  | .remote e => e.display
  | .timeout what after => "no response for " ++ what ++ " within " ++ after.display
  | .decode feed cause => "failed to decode " ++ feed.name ++ " notification: " ++ cause.message
  | .noResponse => "no response"
  | .unexpectedReply what => "unexpected reply: " ++ what
  | .reconnectFailed elapsed last =>
    "reconnect failed after " ++ elapsed.display ++ ": " ++ last.message
  | .transport e => e.message
  | .unsupported what => what ++ " is not supported"
  | .invalidParams reason => "invalid params: " ++ reason
  | .serialization cause => "serialization error: " ++ cause.message
  | .config e => e.message

/-- May the same call succeed when it is made again? -/
def isRetryable : HandlerError → Bool
  | .timeout _ _ | .noResponse | .transport _ => true
  | _ => false

/-- The message of the error underneath, for the errors that report one. -/
def source? : HandlerError → Option String
  | .decode _ cause => some cause.message
  | .serialization cause => some cause.message
  | .reconnectFailed _ last => some last.message
  | _ => none

end HandlerError

end FeedLink
