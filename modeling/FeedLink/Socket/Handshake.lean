import FeedLink.Endpoint
import FeedLink.Duration
import FeedLink.Table
import FeedLink.Text.HeaderField
import FeedLink.Uri

/-!
# Handshakes

Before a WebSocket is dialed its URL is read and its headers are checked. `Handshake.ofEndpoint`
does both, the URL first and then one header after the other; the first fault decides.
-/

namespace FeedLink.Socket

/-- Why a WebSocket could not be dialed. -/
inductive DialFault where
  | uri (e : UriError)
  /-- The URL names no host. -/
  | noHost
  | headerName (name : String)
  /-- The header with this name has a value that cannot be sent. -/
  | headerValue (name : String)
  /-- The network or the server refused. -/
  | refused (reason : String)
  /-- The handshake took longer than it may. -/
  | late (after : Duration)
deriving DecidableEq, Repr

def DialFault.reason : DialFault → String
  | .uri e => "HTTP format error: " ++ e.message
  | .noHost => "URL error: No host name in the URL"
  | .headerName name => "header " ++ name ++ ": invalid HTTP header name"
  | .headerValue name => "header " ++ name ++ ": failed to parse header value"
  | .refused reason => reason
  | .late after => "handshake timed out after " ++ after.display

/-- What is sent when a WebSocket is dialed. The names of the headers are in lower case and
distinct. -/
structure Handshake where
  uri : Uri
  headers : Table String String
deriving DecidableEq, Repr

namespace Handshake

/-- Adds a header, in the place of an older one of that name. -/
def addHeader (headers : Table String String) (header : String × String) :
    Except DialFault (Table String String) :=
  match HeaderField.name? header.1 with
  | none => .error (.headerName header.1)
  | some name =>
    if HeaderField.isValue header.2 then .ok (Table.set name header.2 headers)
    else .error (.headerValue name)

/-- The handshake with an endpoint. -/
def ofEndpoint (e : Endpoint) : Except DialFault Handshake := do
  let uri ← (Uri.parse true e.url).mapError .uri
  if uri.authority.isEmpty then throw .noHost
  return ⟨uri, ← e.headers.foldlM addHeader []⟩

end Handshake

end FeedLink.Socket
