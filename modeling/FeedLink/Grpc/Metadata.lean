import FeedLink.Config
import FeedLink.Text.HeaderField

/-!
# Metadata of a call

Every call to a gateway carries the authorization, the network and the client version, as headers.
-/

namespace FeedLink.Grpc

/-- A metadata value, or the reason why a text cannot be one. -/
def metadataValue (c : Config) (text : String) : Except ConfigError String :=
  if HeaderField.isValue text then .ok text
  else
    let url := match c.endpoint with
      | .ok (_, url) => url
      | .error _ => ""
    .error (.invalidUrl url
      ("metadata value " ++ Quoted.quote text ++ ": failed to parse metadata value"))

/-- The metadata of every call. -/
def callMetadata (c : Config) (version : String) : Except ConfigError (List (String × String)) := do
  let auth ← c.authValue
  let auth ← metadataValue c auth
  let network ← metadataValue c c.network
  let version ← metadataValue c version
  let language ← metadataValue c "rust"
  return [("authorization", auth), ("x-bloxroute-blockchain", network),
    ("x-bloxroute-sdk-version", version), ("x-bloxroute-code-language", language)]

end FeedLink.Grpc
