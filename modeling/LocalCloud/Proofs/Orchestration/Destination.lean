import LocalCloud.Proofs.Consumer.QueryTransport
import LocalCloud.Proofs.Http.Location
import LocalCloud.Proofs.Message.Endpoint
import LocalCloud.Proofs.Provider.Routing

/-!
# Where a rule leads

The address of a rule is put together from the scheme of the rule's interface, the address
and the port of its provider and the URI of its service.  Read as a URI, it leads to that
provider and to the path at which a provider serves that URI, as long as the provider's
address has no colons: an IPv6 address is not put in brackets.
-/

namespace LocalCloud

open Http (Location)

variable {H E : Type}

namespace Provider

variable {provider after : Provider H E} {provided : ProvidedService H}

theorem routes_of_addService (h : provider.addService provided = .ok after) :
    after.routes = provider.routes ++ [provided.route] := by
  rw [addService, changed] at h
  by_cases hfits : provider.Fits (.service provided)
  · rw [run_wire_of_fits hfits] at h
    cases h
    rfl
  · obtain ⟨reason, hrun⟩ := run_wire_of_not_fits hfits
    rw [hrun] at h
    cases h

/-- A service that was taken is reached under its path and its method. -/
theorem route_wired (header : Option String) {offers : List (Offer H E)}
    (hplain : ∀ offer ∈ offers, ¬ HasCapture offer.uri)
    (hmem : .service provided ∈ (trusting header : Provider H E).accepted offers) :
    ((trusting header).wired offers).route provided.path provided.method = .service provided := by
  obtain ⟨router, hrouter, hgroups, hliteral⟩ := routes_wired header hplain
  rw [route, hrouter]
  exact (hgroups.route_eq_iff hliteral _ _ (.service provided)).2 ⟨hmem, rfl, .inl rfl⟩

end Provider

theorem Service.isPath_path {service : Service} (h : IsPlainAddress service.uri) :
    Location.isPath service.path.toList = true := by
  have hchars : service.path.toList = '/' :: service.uri.toList.dropWhile (· == '/') := by
    simp [path, uriPath, Text.dropLeading]
  have hrest : ∀ c ∈ service.uri.toList.dropWhile (· == '/'), c ≠ '?' ∧ c ≠ '#' := by
    intro c hc
    have hmem : c ∈ service.uri.toList := (List.dropWhile_sublist _).subset hc
    constructor
    · rintro rfl
      exact h.1 hmem
    · rintro rfl
      exact h.2 hmem
  rw [hchars, Location.isPath]
  simpa using hrest

namespace OrchestrationRule

variable {rule : OrchestrationRule}

/-- Where the provider of a rule serves the rule's service. -/
def location (rule : OrchestrationRule) : Location where
  scheme := rule.scheme
  host := rule.provider.address
  port := some rule.provider.port.toNat
  path := rule.service.path

theorem scheme_eq (rule : OrchestrationRule) :
    rule.scheme = if rule.service.interface.security = "SECURE"
      then Text.lower rule.protocol ++ "s" else Text.lower rule.protocol := by
  rw [scheme, isSecure, Interface.isSecure]
  by_cases h : rule.service.interface.security = "SECURE" <;> simp [h]

theorem scheme_of_http (h : rule.protocol = "HTTP") :
    rule.scheme = if rule.service.interface.security = "SECURE" then "https" else "http" := by
  have hlower : Text.lower "HTTP" = "http" := by decide +kernel
  rw [scheme_eq, h, hlower]
  rfl

theorem scheme_of_webSocket (h : rule.protocol = "WS") :
    rule.scheme = if rule.service.interface.security = "SECURE" then "wss" else "ws" := by
  have hlower : Text.lower "WS" = "ws" := by decide +kernel
  rw [scheme_eq, h, hlower]
  rfl

theorem isScheme_scheme (h : rule.protocol = "HTTP" ∨ rule.protocol = "WS") :
    Location.isScheme rule.scheme.toList = true := by
  rcases h with hhttp | hsocket
  · rw [scheme_of_http hhttp]
    split <;> decide
  · rw [scheme_of_webSocket hsocket]
    split <;> decide

/-- The address of a rule is written part by part, its host as it is. -/
theorem url_eq (rule : OrchestrationRule) :
    rule.url = String.ofList (rule.scheme.toList ++ ([':', '/', '/'] ++
      (rule.provider.address.toList ++ Location.portChars (some rule.provider.port.toNat) ++
        rule.service.path.toList))) := by
  apply String.toList_injective
  simp [url, endpoint, authority, System.authority, System.toList_portText, Location.portChars,
    Service.path]

/-- The address with the host in brackets. -/
def bracketedUrl (rule : OrchestrationRule) : String :=
  rule.scheme ++ "://[" ++ rule.provider.address ++ "]:" ++ rule.provider.portText ++
    rule.service.path

theorem url_eq_toString (h : ':' ∉ rule.provider.address.toList) :
    rule.url = rule.location.toString := by
  rw [url_eq, Location.toString, location, Location.hostChars, if_neg h]

theorem bracketedUrl_eq_toString (h : ':' ∈ rule.provider.address.toList) :
    rule.bracketedUrl = rule.location.toString := by
  apply String.toList_injective
  simp [bracketedUrl, System.toList_portText, Location.toString, location, Location.hostChars, h,
    Location.portChars]

/-- What a location tells that leads to the provider of a rule. -/
structure LeadsToProvider (rule : OrchestrationRule) (location : Location) : Prop where
  http : rule.protocol = "HTTP" →
    location.scheme = if rule.service.interface.security = "SECURE" then "https" else "http"
  webSocket : rule.protocol = "WS" →
    location.scheme = if rule.service.interface.security = "SECURE" then "wss" else "ws"
  host : location.host = rule.provider.address
  port : location.port = some rule.provider.port.toNat
  path : location.path = "/" ++ Text.dropLeading '/' rule.service.uri
  /-- A provider of a service with the URI serves it at the path. -/
  wired : ∀ {H E : Type} (provider after : Provider H E) (provided : ProvidedService H),
    provided.service.uri = rule.service.uri → provider.addService provided = .ok after →
    after.routes = provider.routes ++ [(location.path, provided.method)]
  /-- Requests for the path reach the service. -/
  reached : ∀ {H E : Type} (header : Option String) (offers : List (Offer H E))
    (provided : ProvidedService H), (∀ offer ∈ offers, ¬ HasCapture offer.uri) →
    .service provided ∈ (Provider.trusting header : Provider H E).accepted offers →
    provided.service.uri = rule.service.uri →
    ((Provider.trusting header).wired offers).route location.path provided.method =
      .service provided

theorem path_eq_of_uri_eq {provided : ProvidedService H}
    (h : provided.service.uri = rule.service.uri) : provided.path = rule.location.path := by
  rw [ProvidedService.path, Service.path, Service.uriPath, h]
  rfl

theorem leadsToProvider_location (rule : OrchestrationRule) :
    rule.LeadsToProvider rule.location where
  http := scheme_of_http
  webSocket := scheme_of_webSocket
  host := rfl
  port := rfl
  path := rfl
  wired := by
    intro H E provider after provided huri hadded
    rw [← path_eq_of_uri_eq huri]
    exact Provider.routes_of_addService hadded
  reached := by
    intro H E header offers provided hplain hmem huri
    rw [← path_eq_of_uri_eq huri]
    exact Provider.route_wired header hplain hmem

/-- How the address of a rule is read, by the kind of its provider's address. -/
structure DenotesProvider (rule : OrchestrationRule) : Prop where
  named : Location.isName rule.provider.address.toList = true ∨
      Location.IsIpv4 rule.provider.address.toList →
    ∃ location, Location.ofString? rule.url = some location ∧ rule.LeadsToProvider location
  /-- Without its brackets an IPv6 address makes no URI; with them it would. -/
  ipv6 : Http.Url.isIpv6 rule.provider.address.toList = true →
    Location.ofString? rule.url = none ∧ ∃ location,
      Location.ofString? rule.bracketedUrl = some location ∧ rule.LeadsToProvider location

theorem denotesProvider_of_protocol (rule : OrchestrationRule)
    (hprotocol : rule.protocol = "HTTP" ∨ rule.protocol = "WS")
    (huri : IsPlainAddress rule.service.uri) : rule.DenotesProvider := by
  have hport : rule.provider.port.toNat ≤ 65535 := Nat.le_of_lt_succ rule.provider.port.toNat_lt
  have hread : Location.isName rule.provider.address.toList = true ∨
      Http.Url.isIpv6 rule.provider.address.toList = true →
      Location.ofString? rule.location.toString = some rule.location := by
    intro hhost
    apply Location.ofString?_toString
    exact ⟨isScheme_scheme hprotocol, hhost, by simpa [location] using hport,
      Service.isPath_path huri⟩
  constructor
  case named =>
    intro h
    have hname : Location.isName rule.provider.address.toList = true := by
      rcases h with hname | hipv4
      · exact hname
      · exact Location.isName_of_isIpv4 hipv4
    have hcolon : ':' ∉ rule.provider.address.toList := Location.not_mem_of_isName hname rfl
    rw [url_eq_toString hcolon]
    exact ⟨rule.location, hread (.inl hname), rule.leadsToProvider_location⟩
  case ipv6 =>
    intro h
    have hcolon : ':' ∈ rule.provider.address.toList := Http.Url.colon_mem_of_isIpv6 h
    constructor
    · have hhead : rule.provider.address.toList.head? ≠ some '[' := by
        intro hhead
        exact Location.not_mem_of_isIpv6 h rfl (List.mem_of_head? hhead)
      have hauthority : '/' ∉ rule.provider.address.toList ++
          Location.portChars (some rule.provider.port.toNat) := by
        rw [List.mem_append, not_or]
        exact ⟨Location.not_mem_of_isIpv6 h rfl, Location.slash_not_mem_portChars _⟩
      rw [url_eq, Location.ofString?_append (isScheme_scheme hprotocol) hauthority
        (Service.isPath_path huri), Location.authority?_of_colon_mem hcolon hhead, Option.map_none]
    · rw [bracketedUrl_eq_toString hcolon]
      exact ⟨rule.location, hread (.inr h), rule.leadsToProvider_location⟩

/-- A rule for a service at a given address. -/
def echoAt (address : String) : OrchestrationRule where
  service := ⟨"echo", "//echo", ⟨"HTTP", "SECURE", "JSON"⟩, .unrestricted, ∅, none⟩
  provider := ⟨"provider", address, 8000, none⟩
  method := "GET"

theorem denotesProvider_of_protocol_echo :
    IsPlainAddress (echoAt "10.0.0.2").service.uri ∧ (echoAt "10.0.0.2").DenotesProvider ∧
      Location.isName "10.0.0.2".toList = true ∧
      Location.ofString? (echoAt "10.0.0.2").url =
        some ⟨"https", "10.0.0.2", some 8000, "/echo"⟩ := by
  have huri : IsPlainAddress (echoAt "10.0.0.2").service.uri := by decide
  refine ⟨huri, denotesProvider_of_protocol _ (.inl rfl) huri, ?_, ?_⟩
  · decide +kernel
  · decide +kernel

/-- A provider at an IPv6 address cannot be called: neither the grammar nor the reader of the
caller makes anything of the rule's address. -/
theorem exists_isIpv6_ofString?_eq_none :
    ∃ rule : OrchestrationRule, rule.protocol = "HTTP" ∧ IsPlainAddress rule.service.uri ∧
      Http.Url.isIpv6 rule.provider.address.toList = true ∧
      rule.url = "https://::1:8000/echo" ∧ Location.ofString? rule.url = none ∧
      Http.Url.ofString? rule.url = none := by
  refine ⟨echoAt "::1", rfl, ?_, ?_, ?_, ?_, ?_⟩
  · decide
  · decide +kernel
  · decide +kernel
  · decide +kernel
  · decide +kernel

end OrchestrationRule

end LocalCloud
