import FeedLink.Config
import FeedLink.Proofs.Json.Fields

/-!
# Usable configurations

A configuration selects the first of its URLs that is not empty: the cloud API comes before the
WebSocket of a gateway, and that before gRPC. It is usable if this URL is well formed for its kind
and if there are credentials. Validation accepts usable configurations only, and what it accepts can
be used: the endpoint is the URL that was looked at, and the headers carry the credentials.

It does not accept all that are usable. A gateway that is reached over gRPC may be named by a host
and a port without a scheme, and only the schemes of a WebSocket are out of place there; but every
address is refused that begins with the letters `ws`, whether they belong to a scheme or to a host.

## Main definitions

* `EndpointKind.preferred` — the kinds that a configuration prefers to a kind
* `Config.Selects` — the first URL that is not empty, and its kind
* `Config.WellFormed` — a URL can be dialed as an endpoint of its kind
* `Config.HasCredentials` — there is something to authorize with
* `Config.Usable` — there is an endpoint to dial, and something to authorize with

## Main results

* `Config.endpoint_eq_ok_iff` — which endpoint a configuration selects
* `Config.exists_authValue_iff` — when there is something to authorize with
* `Config.urlFault?_eq_none_iff` — which URLs are not refused
* `Config.validates_iff` — which configurations are accepted, and what they are good for
* `Config.usable_host_refused` — a usable configuration that is not accepted
-/

namespace FeedLink

open Json

namespace EndpointKind

/-- The kinds that a configuration prefers to a kind. -/
def preferred (kind : EndpointKind) : List EndpointKind := all.takeWhile (· ≠ kind)

@[simp] theorem preferred_cloudApi : cloudApi.preferred = [] := rfl

@[simp] theorem preferred_gatewaySocket : gatewaySocket.preferred = [.cloudApi] := rfl

@[simp] theorem preferred_gatewayGrpc : gatewayGrpc.preferred = [.cloudApi, .gatewaySocket] := rfl

theorem ne_of_mem_preferred {kind other : EndpointKind} (hother : other ∈ kind.preferred) :
    other ≠ kind := by
  rintro rfl
  cases other <;> simp at hother

end EndpointKind

namespace Config

variable {c b : Config} {kind : EndpointKind} {url header : String}

/-! ### What is selected -/

/-- The URL of a configuration for a kind of endpoint. -/
def url? (c : Config) : EndpointKind → Option String
  | .cloudApi => c.cloudApiUrl
  | .gatewaySocket => c.gatewaySocketUrl
  | .gatewayGrpc => c.gatewayGrpcUrl

theorem nonEmpty_of_ne (hurl : url ≠ "") : nonEmpty (some url) = some url := by
  simp [nonEmpty, Option.filter, hurl]

/-- **The endpoint is the first that is not empty.** -/
theorem endpoint_eq_ok_iff : c.endpoint = .ok (kind, url) ↔
    nonEmpty (c.url? kind) = some url ∧
      ∀ other ∈ kind.preferred, nonEmpty (c.url? other) = none := by
  unfold endpoint
  cases kind <;> split <;> simp_all [url?]

/-- The endpoint does not depend on what comes after one that is not empty. -/
theorem endpoint_congr (hsame : ∀ other ∈ kind.preferred, c.url? other = b.url? other)
    (hfirst : ¬∀ other ∈ kind.preferred, nonEmpty (b.url? other) = none) :
    c.endpoint = b.endpoint := by
  unfold endpoint
  cases kind with
  | cloudApi => simp at hfirst
  | gatewaySocket =>
    obtain ⟨url, hurl⟩ : ∃ url, nonEmpty b.cloudApiUrl = some url := by
      simpa [url?, Option.ne_none_iff_exists'] using hfirst
    have hcloud : c.cloudApiUrl = b.cloudApiUrl := by simpa [url?] using hsame
    rw [hcloud, hurl]
  | gatewayGrpc =>
    have hcloud : c.cloudApiUrl = b.cloudApiUrl := hsame .cloudApi (by simp)
    have hsocket : c.gatewaySocketUrl = b.gatewaySocketUrl := hsame .gatewaySocket (by simp)
    rw [hcloud, hsocket]
    cases hfile : nonEmpty b.cloudApiUrl with
    | some url => rfl
    | none =>
      obtain ⟨url, hurl⟩ : ∃ url, nonEmpty b.gatewaySocketUrl = some url := by
        simpa [url?, hfile, Option.ne_none_iff_exists'] using hfirst
      rw [hurl]

theorem authValue_of_header (hheader : c.authHeader = some header) (hne : header ≠ "") :
    c.authValue = .ok header := by
  rw [authValue, hheader, nonEmpty_of_ne hne]

/-! ### What is usable -/

/-- The URL is the first of a configuration that is not empty, and this is its kind. -/
def Selects (c : Config) (kind : EndpointKind) (url : String) : Prop :=
  nonEmpty (c.url? kind) = some url ∧ ∀ other ∈ kind.preferred, nonEmpty (c.url? other) = none

/-- The URL has the scheme of a WebSocket. -/
def HasSocketScheme (url : String) : Prop :=
  "ws://".toList <+: url.toList ∨ "wss://".toList <+: url.toList

/-- The URL can be dialed as an endpoint of its kind. -/
def WellFormed (url : String) : EndpointKind → Prop
  | .cloudApi | .gatewaySocket => HasSocketScheme url
  | .gatewayGrpc => ¬isBlankText url ∧ ¬HasSocketScheme url

instance : Decidable (HasSocketScheme url) := inferInstanceAs (Decidable (_ ∨ _))

instance : Decidable (WellFormed url kind) :=
  match kind with
  | .cloudApi | .gatewaySocket => inferInstanceAs (Decidable (HasSocketScheme url))
  | .gatewayGrpc => inferInstanceAs (Decidable (¬_ ∧ ¬HasSocketScheme url))

/-- There is a header to authorize with, or an account and its secret. -/
def HasCredentials (c : Config) : Prop :=
  (nonEmpty c.authHeader).isSome ∨ (nonEmpty c.accountId).isSome ∧ (nonEmpty c.secret).isSome

/-- The endpoint of a configuration can be dialed, and there is something to authorize with. -/
def Usable (c : Config) : Prop :=
  (∃ kind url, c.Selects kind url ∧ WellFormed url kind) ∧ c.HasCredentials

theorem Selects.endpoint_eq (hselects : c.Selects kind url) : c.endpoint = .ok (kind, url) :=
  endpoint_eq_ok_iff.mpr hselects

/-- No configuration selects two endpoints. -/
theorem Selects.unique {kind' : EndpointKind} {url' : String} (hselects : c.Selects kind url)
    (hselects' : c.Selects kind' url') : kind = kind' ∧ url = url' :=
  Prod.mk.inj (Except.ok.inj (hselects.endpoint_eq.symm.trans hselects'.endpoint_eq))

/-! ### What is accepted -/

theorem beginsWith_iff {beginning : String} :
    beginsWith beginning url = true ↔ beginning.toList <+: url.toList :=
  List.isPrefixOf_iff_prefix

/-- Either scheme of a WebSocket begins with the same letters. -/
theorem HasSocketScheme.begins (hscheme : HasSocketScheme url) : "ws".toList <+: url.toList := by
  have hplain : "ws".toList <+: "ws://".toList := by decide
  have hsecure : "ws".toList <+: "wss://".toList := by decide
  exact hscheme.elim hplain.trans hsecure.trans

/-- **Which URLs are not refused.** -/
theorem urlFault?_eq_none_iff : urlFault? kind url = none ↔
    WellFormed url kind ∧ (kind = .gatewayGrpc → ¬"ws".toList <+: url.toList) := by
  have hsocket : HasSocketScheme url ↔ beginsWith "ws://" url || beginsWith "wss://" url := by
    rw [Bool.or_eq_true, beginsWith_iff, beginsWith_iff, HasSocketScheme]
  cases kind with
  | cloudApi | gatewaySocket =>
    simp [urlFault?, WellFormed, hsocket, or_iff_not_imp_left]
  | gatewayGrpc =>
    have hfault : urlFault? .gatewayGrpc url = none ↔
        ¬isBlankText url ∧ ¬"ws".toList <+: url.toList := by
      rw [urlFault?, ite_eq_right_iff, Bool.or_eq_true, beginsWith_iff, ← not_or]
      exact imp_congr_right fun _ => iff_of_false (Option.some_ne_none _) id
    rw [hfault, WellFormed]
    constructor
    · rintro ⟨hblank, hbegins⟩
      exact ⟨⟨hblank, mt HasSocketScheme.begins hbegins⟩, fun _ => hbegins⟩
    · rintro ⟨⟨hblank, -⟩, hbegins⟩
      exact ⟨hblank, hbegins rfl⟩

/-- **When there is something to authorize with.** -/
theorem exists_authValue_iff : (∃ auth, c.authValue = .ok auth) ↔ c.HasCredentials := by
  unfold authValue HasCredentials
  cases nonEmpty c.authHeader <;> cases nonEmpty c.accountId <;> cases nonEmpty c.secret <;> simp

/-- What validation comes down to. -/
theorem validate_eq_ok_iff : c.validate = .ok () ↔
    ∃ kind url, c.Selects kind url ∧ urlFault? kind url = none ∧ c.HasCredentials := by
  rw [validate, bind_eq_ok_iff, Prod.exists]
  refine exists_congr fun kind => exists_congr fun url => ?_
  rw [endpoint_eq_ok_iff]
  refine and_congr_right fun _ => ?_
  cases hfault : urlFault? kind url with
  | some reason => simp [hfault]
  | none =>
    simp only [hfault, true_and, ← exists_authValue_iff, bind_eq_ok_iff]
    exact exists_congr fun auth => and_iff_left rfl

/-- **Which configurations are accepted, and what they are good for.** Those are accepted that are
usable, unless the address of a gateway that is to be reached over gRPC begins with `ws`. Of one
that is accepted the endpoint is the URL that was found to be well formed, and that URL is dialed
with the authorization value. -/
theorem validates_iff (c : Config) :
    (c.validate = .ok () ↔
      c.Usable ∧ ∀ url, c.Selects .gatewayGrpc url → ¬"ws".toList <+: url.toList) ∧
    (c.validate = .ok () → ∃ kind url auth,
      c.Selects kind url ∧ WellFormed url kind ∧ c.endpoint = .ok (kind, url) ∧
        c.authValue = .ok auth ∧
        ∀ version, c.socketEndpoint version = .ok ⟨url, c.headers auth version⟩) := by
  constructor
  · rw [validate_eq_ok_iff]
    constructor
    · rintro ⟨kind, url, hselects, hfault, hcredentials⟩
      obtain ⟨hwell, hbegins⟩ := urlFault?_eq_none_iff.mp hfault
      refine ⟨⟨⟨kind, url, hselects, hwell⟩, hcredentials⟩, fun url' hselects' => ?_⟩
      obtain ⟨hkind, rfl⟩ := hselects.unique hselects'
      exact hbegins hkind
    · rintro ⟨⟨⟨kind, url, hselects, hwell⟩, hcredentials⟩, hbegins⟩
      refine ⟨kind, url, hselects, urlFault?_eq_none_iff.mpr ⟨hwell, ?_⟩, hcredentials⟩
      rintro rfl
      exact hbegins url hselects
  · intro hvalid
    obtain ⟨kind, url, hselects, hfault, hcredentials⟩ := validate_eq_ok_iff.mp hvalid
    obtain ⟨auth, hauth⟩ := exists_authValue_iff.mpr hcredentials
    refine ⟨kind, url, auth, hselects, (urlFault?_eq_none_iff.mp hfault).1, hselects.endpoint_eq,
      hauth, fun version => ?_⟩
    rw [socketEndpoint, hselects.endpoint_eq, hauth]
    rfl

/-! ### A host that is taken for a scheme -/

/-- A gateway that is reached over gRPC, on a host whose name begins with the same letters as the
scheme of a WebSocket. -/
def wsNamedHost : Config := forEndpoint .gatewayGrpc "wsnode:5001" "h"

/-- **A usable configuration that is not accepted.** It names a host and a port without a scheme,
and a host and a port is what it is told to name. -/
theorem usable_host_refused :
    wsNamedHost.Usable ∧ wsNamedHost.validate =
      .error (.invalidUrl "wsnode:5001" "expected host:port or an http(s):// URL") := by
  have hselects : wsNamedHost.Selects .gatewayGrpc "wsnode:5001" := ⟨rfl, by decide⟩
  have hwell : WellFormed "wsnode:5001" .gatewayGrpc := by decide
  exact ⟨⟨⟨_, _, hselects, hwell⟩, .inl rfl⟩, by decide⟩

end Config

end FeedLink
