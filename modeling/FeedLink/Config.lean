import FeedLink.Endpoint
import FeedLink.Error
import FeedLink.Text.Base64
import FeedLink.Text.Blank
import FeedLink.Text.Utf8

/-!
# Configuration

A configuration names up to three endpoints, of which the first that is not empty is used, and
credentials, either as a header or as an account and a secret. It is read from JSON and written as
JSON; every field has a default, and spans of time are whole milliseconds there.
-/

namespace FeedLink

open Json

/-- How long each kind of waiting may take, and how redialing and unsubscribing back off. -/
structure Timeouts where
  /-- How long a request or a subscribe waits for its reply. -/
  requestWait : Duration
  unsubscribeCeiling : Duration
  unsubscribeInitial : Duration
  reconnectCeiling : Duration
  reconnectInitial : Duration
  /-- How long closing waits for the reader to stop. -/
  closeWait : Duration
  grpcUnsubscribeWait : Duration
  handshake : Duration
  grpcDial : Duration
deriving DecidableEq, Repr

namespace Timeouts

def standard : Timeouts where
  requestWait := .ofSeconds 60
  unsubscribeCeiling := .ofSeconds 10
  unsubscribeInitial := .ofMillis 100
  reconnectCeiling := .ofSeconds 60
  reconnectInitial := .ofMillis 100
  closeWait := .ofMillis 200
  grpcUnsubscribeWait := .ofSeconds 5
  handshake := .ofSeconds 15
  grpcDial := .ofSeconds 15

instance : Inhabited Timeouts := ⟨standard⟩

/-- A span in whole milliseconds, of which 64 bits are kept. -/
def millis : Codec Duration where
  read d := (Codec.uint64.read d).map fun n => .ofMillis n.toNat
  write d := .ofUInt64 (UInt64.ofNat d.millis)

def record : Record Timeouts where
  name := "Timeouts"
  blank := standard
  fields := [
    .defaulted "request_wait" millis (·.requestWait) fun a t => { t with requestWait := a },
    .defaulted "unsubscribe_ceiling" millis (·.unsubscribeCeiling)
      fun a t => { t with unsubscribeCeiling := a },
    .defaulted "unsubscribe_initial" millis (·.unsubscribeInitial)
      fun a t => { t with unsubscribeInitial := a },
    .defaulted "reconnect_ceiling" millis (·.reconnectCeiling)
      fun a t => { t with reconnectCeiling := a },
    .defaulted "reconnect_initial" millis (·.reconnectInitial)
      fun a t => { t with reconnectInitial := a },
    .defaulted "close_wait" millis (·.closeWait) fun a t => { t with closeWait := a },
    .defaulted "grpc_unsubscribe_wait" millis (·.grpcUnsubscribeWait)
      fun a t => { t with grpcUnsubscribeWait := a },
    .defaulted "handshake" millis (·.handshake) fun a t => { t with handshake := a },
    .defaulted "grpc_dial" millis (·.grpcDial) fun a t => { t with grpcDial := a }]

end Timeouts

/-- The settings of a handler. -/
structure Config where
  cloudApiUrl : Option String
  gatewaySocketUrl : Option String
  gatewayGrpcUrl : Option String
  /-- The value of the authorization header, sent as it is. -/
  authHeader : Option String
  accountId : Option String
  secret : Option String
  network : String
  /-- Redial and subscribe again after the connection is lost? -/
  reconnect : Bool
  /-- How many messages may wait to be written. -/
  queueCapacity : UInt64
  /-- The longest message accepted, in bytes. -/
  maxMessageSize : UInt64
  timeouts : Timeouts
deriving DecidableEq, Repr

namespace Config

def standardNetwork : String := "Mainnet"

/-- A configuration with neither an endpoint nor credentials. -/
def standard : Config where
  cloudApiUrl := none
  gatewaySocketUrl := none
  gatewayGrpcUrl := none
  authHeader := none
  accountId := none
  secret := none
  network := standardNetwork
  reconnect := true
  queueCapacity := 1000
  maxMessageSize := 15728640
  timeouts := .standard

instance : Inhabited Config := ⟨standard⟩

/-- The standard configuration for one endpoint. -/
def forEndpoint (kind : EndpointKind) (url auth : String) : Config :=
  let config := { standard with authHeader := some auth }
  match kind with
  | .cloudApi => { config with cloudApiUrl := some url }
  | .gatewaySocket => { config with gatewaySocketUrl := some url }
  | .gatewayGrpc => { config with gatewayGrpcUrl := some url }

def record : Record Config where
  name := "Config"
  blank := standard
  fields := [
    .defaulted "ws_cloud_api_url" Codec.string.option (·.cloudApiUrl)
      fun a c => { c with cloudApiUrl := a },
    .defaulted "ws_gateway_url" Codec.string.option (·.gatewaySocketUrl)
      fun a c => { c with gatewaySocketUrl := a },
    .defaulted "grpc_gateway_url" Codec.string.option (·.gatewayGrpcUrl)
      fun a c => { c with gatewayGrpcUrl := a },
    .defaulted "auth_header" Codec.string.option (·.authHeader)
      fun a c => { c with authHeader := a },
    .defaulted "account_id" Codec.string.option (·.accountId) fun a c => { c with accountId := a },
    .defaulted "secret" Codec.string.option (·.secret) fun a c => { c with secret := a },
    .defaulted "blockchain_network" .string (·.network) fun a c => { c with network := a },
    .defaulted "reconnect" .bool (·.reconnect) fun a c => { c with reconnect := a },
    .defaulted "outbound_queue_capacity" .size (·.queueCapacity)
      fun a c => { c with queueCapacity := a },
    .defaulted "max_message_size" .size (·.maxMessageSize)
      fun a c => { c with maxMessageSize := a },
    .defaulted "timeouts" Timeouts.record.codec (·.timeouts) fun a c => { c with timeouts := a }]

/-! ## Files -/

/-- Why a file that is not UTF-8 cannot be read. -/
def notUtf8 : String := "stream did not contain valid UTF-8"

/-- The wording of a fault in the text of a file. -/
def reason : ReadError → String
  | .malformed => "malformed JSON"
  | .trailing => "trailing characters"
  | .eof => "unexpected end of file"
  | .data cause => cause.message

/-- The configuration in a file, whose contents could be read or could not for a reason. -/
def ofFile (path : String) (contents : Except String (List UInt8)) : Except ConfigError Config := do
  let bytes ← contents.mapError (.read path)
  match Utf8.textOf? bytes with
  | none => .error (.read path notUtf8)
  | some text => (record.codec.ofText text).mapError fun e => .parse path (reason e)

/-! ## What a configuration selects -/

/-- An optional text, unless it is empty. -/
def nonEmpty (s : Option String) : Option String := s.filter fun s => !s.isEmpty

/-- The endpoint that is used. -/
def endpoint (c : Config) : Except ConfigError (EndpointKind × String) :=
  match nonEmpty c.cloudApiUrl, nonEmpty c.gatewaySocketUrl, nonEmpty c.gatewayGrpcUrl with
  | some url, _, _ => .ok (.cloudApi, url)
  | none, some url, _ => .ok (.gatewaySocket, url)
  | none, none, some url => .ok (.gatewayGrpc, url)
  | none, none, none => .error .noEndpoint

/-- The authorization value: the header if there is one, else the account and the secret, joined by
a colon, in Base64. -/
def authValue (c : Config) : Except ConfigError String :=
  match nonEmpty c.authHeader, nonEmpty c.accountId, nonEmpty c.secret with
  | some header, _, _ => .ok header
  | none, some account, some secret =>
    .ok (Base64.encode (Utf8.bytesOf (account ++ ":" ++ secret)))
  | _, _, _ => .error .noCredentials

/-- Does a text begin with another? -/
def beginsWith (beginning s : String) : Bool := beginning.toList.isPrefixOf s.toList

/-- What is wrong with the URL of an endpoint, if anything is. -/
def urlFault? (kind : EndpointKind) (url : String) : Option String :=
  match kind with
  | .cloudApi | .gatewaySocket =>
    if beginsWith "ws://" url || beginsWith "wss://" url then none
    else some "expected a ws:// or wss:// URL"
  | .gatewayGrpc =>
    if isBlankText url || beginsWith "ws" url then
      some "expected host:port or an http(s):// URL"
    else none

/-- Refuses a configuration without a usable endpoint, and then one without credentials. -/
def validate (c : Config) : Except ConfigError Unit := do
  let (kind, url) ← c.endpoint
  match urlFault? kind url with
  | some reason => .error (.invalidUrl url reason)
  | none =>
    let _ ← c.authValue
    return ()

/-! ## What is presented to the server -/

/-- The client version that is announced where no other was set. -/
def standardVersion : String := "0.2.0"

/-- The version to announce: the one set, or the standard one. -/
def announced (version : Option String) : String := version.getD standardVersion

/-- Sets the version, which only the first attempt does; tells whether it did. -/
def setVersion (version : Option String) (wanted : String) : Option String × Bool :=
  match version with
  | none => (some wanted, true)
  | some v => (some v, false)

/-- The headers that a WebSocket handshake carries. -/
def headers (c : Config) (auth version : String) : List (String × String) :=
  [("Authorization", auth), ("X-BloXroute-Blockchain", c.network),
    ("X-BloXroute-SDK-Version", version), ("X-BloXroute-Code-Language", "rust")]

/-- Where to dial a WebSocket, and what to present there. -/
def socketEndpoint (c : Config) (version : String) : Except ConfigError Endpoint := do
  let (_, url) ← c.endpoint
  let auth ← c.authValue
  return ⟨url, c.headers auth version⟩

end Config

end FeedLink
