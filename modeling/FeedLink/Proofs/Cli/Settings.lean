import FeedLink.Cli.Settings
import FeedLink.Proofs.Config.Validation

/-!
# What becomes of flags and of the file

Every flag that is given takes the place of one field of the configuration, and the fields without a
flag stay as the file has them. That is all that flags do, and it is not enough for the endpoint,
which is chosen afterwards: the cloud API comes before the WebSocket of a gateway, and that before
gRPC. A flag for one endpoint leaves the fields of the other two alone, so where the file has a URL
of a kind that comes earlier, that URL is used, and the flag has no effect.

## Main definitions

* `Cli.ConnectionFlags.OnlyEndpoint` — one endpoint is flagged, and no other
* `Cli.ConnectionFlags.base` — the configuration into which the flags are put

## Main results

* `Cli.ConnectionFlags.load_eq_ok_iff` — what loading a configuration comes down to
* `Cli.ConnectionFlags.load_follows_flags` — what a loaded configuration has from the flags, and
  what from the file
* `Cli.ConnectionFlags.file_beats_flag` — a flag that has no effect
-/

namespace FeedLink

open Json

namespace Cli.ConnectionFlags

variable {f : ConnectionFlags} {file : String → Except String (List UInt8)} {b c : Config}
  {kind : EndpointKind} {url : String}

/-- The flag for a kind of endpoint. -/
def url? (f : ConnectionFlags) : EndpointKind → Option String
  | .cloudApi => f.cloudApiUrl
  | .gatewaySocket => f.gatewaySocketUrl
  | .gatewayGrpc => f.gatewayGrpcUrl

/-- This endpoint is flagged, and no other. -/
def OnlyEndpoint (f : ConnectionFlags) (kind : EndpointKind) (url : String) : Prop :=
  f.url? kind = some url ∧ ∀ other, other ≠ kind → f.url? other = none

/-- The configuration into which the flags are put: that of the file, if there is one. -/
def base (f : ConnectionFlags) (file : String → Except String (List UInt8)) :
    Except ConfigError Config :=
  match f.config with
  | some path => Config.ofFile path (file path)
  | none => .ok .standard

theorem url?_override (f : ConnectionFlags) (b : Config) (kind : EndpointKind) :
    (f.override b).url? kind = (f.url? kind).or (b.url? kind) := by
  cases kind with
  | cloudApi => exact Option.or_eq_orElse.symm
  | gatewaySocket => exact Option.or_eq_orElse.symm
  | gatewayGrpc => exact Option.or_eq_orElse.symm

theorem url?_override_of_none (hnone : f.url? kind = none) (b : Config) :
    (f.override b).url? kind = b.url? kind := by
  rw [url?_override, hnone, Option.none_or]

/-- What loading a configuration comes down to. -/
theorem load_eq_ok_iff :
    f.load file = .ok c ↔ ∃ b, f.base file = .ok b ∧ f.override b = c ∧ c.validate = .ok () := by
  have hload : f.load file =
      f.base file >>= fun b => (f.override b).validate >>= fun _ => pure (f.override b) := by
    rw [load, base]
    cases f.config <;> rfl
  simp only [hload, bind_eq_ok_iff]
  constructor
  · rintro ⟨b, hbase, ⟨⟩, hvalid, hdone⟩
    obtain rfl := Except.ok.inj hdone
    exact ⟨b, hbase, rfl, hvalid⟩
  · rintro ⟨b, hbase, rfl, hvalid⟩
    exact ⟨b, hbase, (), hvalid, rfl⟩

/-- The flag for an endpoint takes effect exactly where the file has none that is preferred. -/
theorem endpoint_override_iff (hflag : f.OnlyEndpoint kind url) (hurl : url ≠ "") (b : Config) :
    (f.override b).endpoint = .ok (kind, url) ↔
      ∀ other ∈ kind.preferred, Config.nonEmpty (b.url? other) = none := by
  have hsame : ∀ other ∈ kind.preferred, (f.override b).url? other = b.url? other := by
    intro other hother
    exact url?_override_of_none (hflag.2 other (EndpointKind.ne_of_mem_preferred hother)) b
  rw [Config.endpoint_eq_ok_iff, url?_override, hflag.1, Option.some_or,
    Config.nonEmpty_of_ne hurl]
  constructor
  · intro hfirst other hother
    rw [← hsame other hother]
    exact hfirst.2 other hother
  · intro hfirst
    refine ⟨rfl, fun other hother => ?_⟩
    rw [hsame other hother]
    exact hfirst other hother

/-- **What a loaded configuration has from the flags, and what from the file.** The flags for the
authorization and the network count, and the fields without a flag are as in the file. The only
endpoint that is flagged is used if and only if the file has no URL of a kind that is preferred to
it, and otherwise the endpoint is that of the file. -/
theorem load_follows_flags (hload : f.load file = .ok c) :
    ∃ b, f.base file = .ok b ∧
      (∀ kind url, f.OnlyEndpoint kind url → url ≠ "" →
        (c.endpoint = .ok (kind, url) ↔
            ∀ other ∈ kind.preferred, Config.nonEmpty (b.url? other) = none) ∧
          ((¬∀ other ∈ kind.preferred, Config.nonEmpty (b.url? other) = none) →
            c.endpoint = b.endpoint)) ∧
      (∀ auth, f.auth = some auth → auth ≠ "" → c.authValue = .ok auth) ∧
      (∀ network, f.network = some network → c.network = network) ∧
      (∀ kind, f.url? kind = none → c.url? kind = b.url? kind) ∧
      (f.auth = none → c.authHeader = b.authHeader) ∧
      (f.network = none → c.network = b.network) ∧
      c = { b with
        cloudApiUrl := c.cloudApiUrl, gatewaySocketUrl := c.gatewaySocketUrl,
        gatewayGrpcUrl := c.gatewayGrpcUrl, authHeader := c.authHeader, network := c.network } := by
  obtain ⟨b, hbase, rfl, -⟩ := load_eq_ok_iff.mp hload
  refine ⟨b, hbase, fun kind url hflag hurl => ?_, fun auth hauth hne => ?_,
    fun network hnetwork => ?_, fun kind hnone => ?_, fun hnone => ?_, fun hnone => ?_, rfl⟩
  · refine ⟨endpoint_override_iff hflag hurl b, Config.endpoint_congr fun other hother => ?_⟩
    exact url?_override_of_none (hflag.2 other (EndpointKind.ne_of_mem_preferred hother)) b
  · refine Config.authValue_of_header ?_ hne
    rw [override, hauth]
    rfl
  · rw [override, hnetwork]
    rfl
  · exact url?_override_of_none hnone b
  · rw [override, hnone]
    rfl
  · rw [override, hnone]
    rfl

/-! ### A flag without effect -/

/-- A file with the URL of the cloud API. -/
def cloudFile : String :=
  "\x7b\"ws_cloud_api_url\":\"ws://127.0.0.1:1/ws\",\"auth_header\":\"a\"\x7d"

/-- The flags name that file and the WebSocket of a gateway. -/
def gatewayFlagged : ConnectionFlags :=
  ⟨some "config.json", none, some "ws://127.0.0.1:2/ws", none, none, none⟩

/-- The configuration that is loaded. -/
def cloudLoaded : Config :=
  { Config.standard with
    cloudApiUrl := some "ws://127.0.0.1:1/ws"
    gatewaySocketUrl := some "ws://127.0.0.1:2/ws"
    authHeader := some "a" }

theorem load_gatewayFlagged :
    gatewayFlagged.load (fun _ => .ok (Utf8.bytesOf cloudFile)) = .ok cloudLoaded := by
  decide +kernel

theorem onlyEndpoint_gatewayFlagged :
    gatewayFlagged.OnlyEndpoint .gatewaySocket "ws://127.0.0.1:2/ws" :=
  ⟨rfl, fun other hother => by cases other <;> first | rfl | contradiction⟩

/-- The general result about these flags and this file. -/
theorem gatewayFlagged_follows_flags :
    gatewayFlagged.load (fun _ => .ok (Utf8.bytesOf cloudFile)) = .ok cloudLoaded ∧
      ∃ b, gatewayFlagged.base (fun _ => .ok (Utf8.bytesOf cloudFile)) = .ok b ∧
        (cloudLoaded.endpoint = .ok (.gatewaySocket, "ws://127.0.0.1:2/ws") ↔
          ∀ other ∈ EndpointKind.gatewaySocket.preferred,
            Config.nonEmpty (b.url? other) = none) ∧
        cloudLoaded.authHeader = b.authHeader ∧ cloudLoaded.network = b.network := by
  obtain ⟨b, hbase, hendpoint, -, -, -, hauth, hnetwork, -⟩ :=
    load_follows_flags load_gatewayFlagged
  exact ⟨load_gatewayFlagged, b, hbase,
    (hendpoint _ _ onlyEndpoint_gatewayFlagged (by decide)).1, hauth rfl, hnetwork rfl⟩

/-- **A flag that has no effect.** The WebSocket of a gateway is the only endpoint that is flagged,
and the configuration that is loaded selects the cloud API of the file. -/
theorem file_beats_flag :
    gatewayFlagged.load (fun _ => .ok (Utf8.bytesOf cloudFile)) = .ok cloudLoaded ∧
      gatewayFlagged.OnlyEndpoint .gatewaySocket "ws://127.0.0.1:2/ws" ∧
      cloudLoaded.endpoint = .ok (.cloudApi, "ws://127.0.0.1:1/ws") :=
  ⟨load_gatewayFlagged, onlyEndpoint_gatewayFlagged, rfl⟩

end Cli.ConnectionFlags

end FeedLink
