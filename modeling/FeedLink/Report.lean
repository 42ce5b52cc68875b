import FeedLink.Endpoint
import FeedLink.Json.Lenient
import FeedLink.Notification

/-!
# Reports

Errors, deliveries and results as JSON: an error is reported under a short name of its cause, with
its message and with whether trying again may help. Errors can also be written down in JSON, for
scripts that say what goes wrong.
-/

namespace FeedLink

open Json Json.Lenient

/-! ## Names of causes -/

def TransportError.name : TransportError → String
  | .closed => "Closed"
  | .dial _ _ => "Dial"
  | .reset _ => "Reset"
  | .webSocket _ => "WebSocket"
  | .grpc _ => "Grpc"
  | .queueFull => "QueueFull"

def ConfigError.name : ConfigError → String
  | .noEndpoint => "NoEndpoint"
  | .noCredentials => "NoCredentials"
  | .invalidUrl _ _ => "InvalidUrl"
  | .read _ _ => "Read"
  | .parse _ _ => "Parse"

/-- The name of a cause; where another error is behind it, the name of that one follows a point. -/
def HandlerError.name : HandlerError → String
  | .notConnected => "NotConnected"
  | .alreadySubscribed _ => "AlreadySubscribed"
  | .notSubscribed _ => "NotSubscribed"
  | .remote _ => "Remote"
  | .timeout _ _ => "Timeout"
  | .decode _ _ => "Decode"
  | .noResponse => "NoResponse"
  | .unexpectedReply _ => "UnexpectedReply"
  | .reconnectFailed _ last => "ReconnectFailed." ++ last.name
  | .transport e => "Transport." ++ e.name
  | .unsupported _ => "Unsupported"
  | .invalidParams _ => "InvalidParams"
  | .serialization _ => "Serialization"
  | .config e => "Config." ++ e.name

/-! ## Reports -/

def Json.ReadError.report : ReadError → Value
  | .malformed | .trailing => .object [("error", text "Json"), ("category", text "syntax")]
  | .eof => .object [("error", text "Json"), ("category", text "eof")]
  | .data e =>
    .object [("error", text "Json"), ("category", text "data"), ("message", text e.message)]

def Json.DecodeError.report (e : DecodeError) : Value := (ReadError.data e).report

def ConfigError.report (e : ConfigError) : Value :=
  .object [("error", text e.name), ("message", text e.message)]

/-- The fields of an error of the server. -/
def RemoteError.reportFields (e : RemoteError) : List (String × Value) :=
  [("code", .num (.ofInt64 e.code)), ("message", text e.message)] ++
    (e.data.map fun d => ("data", d)).toList

/-- The fields of the report of an error. -/
def HandlerError.reportFields (e : HandlerError) : List (String × Value) :=
  [("error", text e.name), ("message", text e.message), ("retryable", .bool e.isRetryable)] ++
    match e with
    | .remote r => [("remote", .object r.reportFields)]
    | _ => []

def HandlerError.report (e : HandlerError) : Value := .object e.reportFields

namespace Report

/-- The fields of the report of what a callback got. -/
def deliveryFields : Delivery → List (String × Value)
  | .ok n => [("type", text n.shape.name), ("value", n.toValue)]
  | .error e => e.reportFields

def delivery (d : Delivery) : Value := .object (deliveryFields d)

/-- The fields of the report of a result. -/
def resultFields : Except HandlerError Value → List (String × Value)
  | .ok v => [("ok", v)]
  | .error e => e.reportFields

def result (r : Except HandlerError Value) : Value := .object (resultFields r)

/-- A result that may have no value; it is null then. -/
def callResult (r : Except HandlerError (Option Value)) : Value :=
  result (r.map (·.getD .null))

/-- What calls returned, under their names, if any did. -/
def doneFields (done : List (String × Value)) : List (String × Value) :=
  if done.isEmpty then [] else [("done", .object done)]

def endpoint (e : Endpoint) : Value :=
  .object [("url", text e.url),
    ("headers", .arr (e.headers.map fun h => pair (text h.1) (text h.2)))]

/-- A time in whole milliseconds. -/
def millis (d : Duration) : Value := nat d.millis

/-- A span as its seconds and the nanoseconds after them. -/
def duration (d : Duration) : Value := .arr [nat d.seconds, nat d.subsecNanos]

end Report

/-! ## Errors in scripts -/

namespace Script

/-- A span of whole milliseconds. -/
def millisAt (v : Value) (key : String) : Duration := .ofMillis (natAt v key)

def duration (v : Value) : Duration :=
  ⟨(int (item v 0)).toNat * 1000000000 + (int (item v 1)).toNat⟩

def transportError (v : Value) : TransportError :=
  match strAt v "kind" with
  | "QueueFull" => .queueFull
  | "Reset" => .reset (strAt v "text")
  | "WebSocket" => .webSocket (strAt v "text")
  | "Grpc" => .grpc (strAt v "text")
  | "Dial" => .dial (strAt v "url") (strAt v "reason")
  | _ => .closed

def configError (v : Value) : ConfigError :=
  match strAt v "kind" with
  | "NoCredentials" => .noCredentials
  | "InvalidUrl" => .invalidUrl (strAt v "url") (strAt v "reason")
  | "Read" => .read (strAt v "path") (strAt v "reason")
  | "Parse" => .parse (strAt v "path") (strAt v "reason")
  | _ => .noEndpoint

def remoteError (v : Value) : RemoteError :=
  ⟨Int64.ofInt (intAt v "code"), strAt v "message", v.field? "data"⟩

def handlerError (v : Value) : HandlerError :=
  match strAt v "kind" with
  | "NoResponse" => .noResponse
  | "AlreadySubscribed" => .alreadySubscribed ⟨strAt v "feed"⟩
  | "NotSubscribed" => .notSubscribed ⟨strAt v "feed"⟩
  | "Remote" => .remote (remoteError v)
  | "Timeout" => .timeout (strAt v "what") (duration (field v "after"))
  | "Decode" => .decode ⟨strAt v "feed"⟩ (.custom (strAt v "text"))
  | "UnexpectedReply" => .unexpectedReply (strAt v "text")
  | "Unsupported" => .unsupported (strAt v "text")
  | "InvalidParams" => .invalidParams (strAt v "text")
  | "Serialization" => .serialization (.custom (strAt v "text"))
  | "ReconnectFailed" =>
    .reconnectFailed (duration (field v "elapsed")) (transportError (field v "source"))
  | "Transport" => .transport (transportError (field v "source"))
  | "Config" => .config (configError (field v "source"))
  | _ => .notConnected

/-- The decoders that a script asks for: the standard ones or none, and those registered after. -/
def decoders (v : Value) : Decoders :=
  let base := if strAt v "registry" = "empty" then Decoders.empty else .standard
  (itemsAt v "register").foldl
    (fun d r => d.register ⟨strAt r "feed"⟩ (.ofName (strAt r "as"))) base

end Script

end FeedLink
