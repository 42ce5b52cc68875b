import FeedLink.Cli.Arguments
import FeedLink.Config

/-!
# Settings of a command

A command works with the configuration in its file, or with the standard one, in which every flag
that is given takes the place of one field. The result has to be valid; the file alone need not be.
-/

namespace FeedLink.Cli.ConnectionFlags

/-- Puts the flags that are given into a configuration. A flag that is given empty counts. -/
def override (f : ConnectionFlags) (c : Config) : Config :=
  { c with
    cloudApiUrl := f.cloudApiUrl <|> c.cloudApiUrl
    gatewaySocketUrl := f.gatewaySocketUrl <|> c.gatewaySocketUrl
    gatewayGrpcUrl := f.gatewayGrpcUrl <|> c.gatewayGrpcUrl
    authHeader := f.auth <|> c.authHeader
    network := f.network.getD c.network }

/-- The configuration to use, where `file` reads the contents of files. -/
def load (f : ConnectionFlags) (file : String → Except String (List UInt8)) :
    Except ConfigError Config := do
  let base ← match f.config with
    | some path => Config.ofFile path (file path)
    | none => .ok .standard
  let config := f.override base
  config.validate
  return config

end FeedLink.Cli.ConnectionFlags
