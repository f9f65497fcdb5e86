import LocalCloud.Consumer.HttpCall
import LocalCloud.Consumer.WebSocketCall
import LocalCloud.Proofs.Message.Interface
import Mathlib.Tactic.Common

/-!
# Where a bearer token travels

A rule takes its token from the tokens of an orchestrator's entry, and the scheme
of its address from the security part of the entry's first interface.  Both are
followed here to the requests that are sent through the rule.

A token is issued for an interface, and the two are matched by the interface
alone, so it is the orchestrator that decides which tokens travel over TLS: those
that it issues for an interface that is `SECURE`.
-/

namespace LocalCloud

theorem Http.prefix_appendQuery {start : List Char} {url : String} (hstart : start <+: url.toList)
    (hfragment : '#' ∉ start) (query : String) : start <+: (appendQuery url query).toList := by
  obtain ⟨rest, hrest⟩ := hstart
  have hplain : ∀ c ∈ start, (c != '#') = true := Text.bne_of_not_mem hfragment
  rw [appendQuery, String.toList_ofList, ← hrest, List.takeWhile_append_of_pos hplain,
    List.append_assoc]
  exact List.prefix_append _ _

namespace OrchestrationRule

variable {rule : OrchestrationRule} {url : String}

/-- How every address begins that belongs to the rule's scheme. -/
def origin (rule : OrchestrationRule) : List Char := (rule.scheme ++ "://").toList

/-- The address is under the secure variant of the scheme of the rule's protocol. -/
def OverTls (rule : OrchestrationRule) (url : String) : Prop :=
  (Text.lower rule.protocol ++ "s://").toList <+: url.toList

/-- Under the rule's own scheme an address is secure exactly when the rule is. -/
theorem overTls_iff_of_origin (h : rule.origin <+: url.toList) :
    rule.OverTls url ↔ rule.isSecure = true := by
  obtain ⟨rest, hrest⟩ := h
  rw [OverTls, ← hrest, origin, scheme]
  simp only [String.toList_append, List.append_assoc, List.prefix_append_right_inj]
  cases hsecure : rule.isSecure with
  | true => simp
  | false => simp

theorem origin_prefix_url (rule : OrchestrationRule) : rule.origin <+: rule.url.toList := by
  have hurl : rule.url.toList = rule.origin ++ rule.endpoint.toList := String.toList_append
  rw [hurl]
  exact List.prefix_append _ _

/-- A token is found among those issued, under a name that spells the interface. -/
theorem tokenFor_eq_some {interface : Interface} {tokens : Dict String} {token : String}
    (h : tokenFor interface tokens = some token) :
    ∃ name, (name, token) ∈ tokens.entries ∧ interface.spelledBy name = true := by
  obtain ⟨⟨name, value⟩, hfind, rfl⟩ := Option.map_eq_some_iff.1 h
  have hspelled : interface.spelledBy name = true := by simpa using List.find?_some hfind
  exact ⟨name, List.mem_of_find?_eq_some hfind, hspelled⟩

/-- The service of a rule is the one its entry describes. -/
theorem serviceOf_of_ofEntry {entry : OrchestrationEntry} {method : String}
    (h : ofEntry entry method = .ok rule) :
    serviceOf entry = .ok rule.service ∧
      rule.token = (entry.authorizationTokens.bind (tokenFor rule.service.interface)).filter
        (fun token => !token.isEmpty) := by
  obtain ⟨service, hservice, hrule⟩ := Error.bind_eq_ok_iff.1 h
  obtain rfl : ofParts service entry.provider method
      (entry.authorizationTokens.bind (tokenFor service.interface)) = rule := Except.ok.inj hrule
  exact ⟨hservice, rfl⟩

/-- The interface of a service is the first one its entry lists. -/
theorem interface_of_serviceOf {entry : OrchestrationEntry} {service : Service}
    (h : serviceOf entry = .ok service) :
    ∃ first, entry.interfaces.head? = some first ∧
      Interface.ofString first.name = .ok service.interface := by
  obtain ⟨first, hfirst, h⟩ := Error.bind_eq_ok_iff.1 h
  obtain ⟨interface, hinterface, h⟩ := Error.bind_eq_ok_iff.1 h
  have hsame : service.interface = interface := by
    cases hsecurity : entry.security with
    | none =>
      rw [hsecurity] at h
      rw [← Except.ok.inj h]
    | some name =>
      rw [hsecurity] at h
      obtain ⟨policy, -, h⟩ := Error.bind_eq_ok_iff.1 h
      rw [← Except.ok.inj h]
  exact ⟨first, Error.ofOption_eq_ok_iff.1 hfirst, hsame ▸ hinterface⟩

end OrchestrationRule

/-- An interface is secure when the middle of its three parts says so, in any
case. -/
theorem Interface.isSecure_of_ofString {text : String} {interface : Interface}
    (h : ofString text = .ok interface) :
    ∃ protocol security payload, Text.splitOn '-' text.toList = [protocol, security, payload] ∧
      (interface.isSecure = true ↔ Text.upper (String.ofList security) = "SECURE") := by
  obtain ⟨protocol, security, payload, hnames, rfl⟩ := ofString_eq_ok_iff.1 h
  exact ⟨protocol, security, payload, hnames.parts, beq_iff_eq⟩

namespace HttpCall

variable {rule : OrchestrationRule} {request : ConsumeRequest} {call : HttpCall}
  {headers : Http.Headers} {token : String}

theorem addHeader_eq_ok {added : Http.Headers} {name value : String}
    (h : addHeader headers name value = .ok added) :
    added = headers ++ [(Text.asciiLower name, Utf8.encode value)] := by
  unfold addHeader at h
  split at h
  · exact (Except.ok.inj h).symm
  · cases h

/-- The token is added behind the headers of the caller. -/
theorem headersOf_eq_ok (h : headersOf rule request = .ok headers)
    (htoken : rule.token = some token) :
    ∃ given, request.headers.foldlM (fun headers header => addHeader headers header.1 header.2)
        (userHeaders rule.url) = .ok given ∧
      headers = given ++ [("authorization", Utf8.encode (Bearer.header token))] := by
  obtain ⟨given, hgiven, hheaders⟩ := Error.bind_eq_ok_iff.1 h
  rw [OrchestrationRule.bearerHeader, htoken] at hheaders
  have hname : Text.asciiLower "authorization" = "authorization" := by decide
  have hadded := addHeader_eq_ok hheaders
  rw [hname] at hadded
  exact ⟨given, hgiven, hadded⟩

theorem ofRequest_eq_ok (h : ofRequest rule request = .ok call) :
    ∃ headers, headersOf rule request = .ok headers ∧ call.url = urlOf rule request ∧
      call.headers = if request.json.isSome then withContentType headers else headers := by
  rw [ofRequest, Error.ite_throw_eq_ok_iff, Error.ite_throw_eq_ok_iff] at h
  obtain ⟨-, -, h⟩ := h
  obtain ⟨headers, hheaders, h⟩ := Error.bind_eq_ok_iff.1 h
  obtain rfl := Except.ok.inj h
  exact ⟨headers, hheaders, rfl, rfl⟩

theorem body_of_ofRequest (h : ofRequest rule request = .ok call) :
    call.body = request.json.map Json.Value.bytes := by
  rw [ofRequest, Error.ite_throw_eq_ok_iff, Error.ite_throw_eq_ok_iff] at h
  obtain ⟨-, -, h⟩ := h
  obtain ⟨headers, -, h⟩ := Error.bind_eq_ok_iff.1 h
  obtain rfl := Except.ok.inj h
  rfl

/-- A call over HTTP carries the rule's token. -/
theorem url_and_bearer_of_ofRequest (h : ofRequest rule request = .ok call)
    (htoken : rule.token = some token) :
    call.url = urlOf rule request ∧
      ("authorization", Utf8.encode (Bearer.header token)) ∈ call.headers := by
  obtain ⟨headers, hheaders, hurl, hcall⟩ := ofRequest_eq_ok h
  obtain ⟨given, -, rfl⟩ := headersOf_eq_ok hheaders htoken
  have hbearer : ("authorization", Utf8.encode (Bearer.header token)) ∈
      given ++ [("authorization", Utf8.encode (Bearer.header token))] := by simp
  refine ⟨hurl, ?_⟩
  rw [hcall]
  split
  · unfold withContentType
    split
    · exact hbearer
    · exact List.mem_append_left _ hbearer
  · exact hbearer

end HttpCall

namespace WebSocketCall

variable {rule : OrchestrationRule} {request : ConsumeRequest} {call : WebSocketCall}
  {headers : Http.Headers} {token : String}

/-- The token takes the place of any `Authorization` header of the caller. -/
theorem headersOf_eq_ok (h : headersOf rule request = .ok headers)
    (htoken : rule.token = some token) :
    ∃ given, headers = setHeader given "authorization" (Utf8.encode (Bearer.header token)) := by
  obtain ⟨given, -, hheaders⟩ := Error.bind_eq_ok_iff.1 h
  rw [OrchestrationRule.bearerHeader, htoken] at hheaders
  simp only [Option.map_some, setBearer] at hheaders
  split at hheaders
  · exact ⟨given, (Except.ok.inj hheaders).symm⟩
  · cases hheaders

theorem ofRequest_eq_ok (h : ofRequest rule request = .ok call) :
    headersOf rule request = .ok call.headers ∧ call.url = urlOf rule.url request.query := by
  rw [ofRequest, Error.ite_throw_eq_ok_iff] at h
  obtain ⟨-, h⟩ := h
  obtain ⟨headers, hheaders, h⟩ := Error.bind_eq_ok_iff.1 h
  obtain rfl := Except.ok.inj h
  exact ⟨hheaders, rfl⟩

/-- A handshake carries the rule's token. -/
theorem url_and_bearer_of_ofRequest (h : ofRequest rule request = .ok call)
    (htoken : rule.token = some token) :
    call.url = urlOf rule.url request.query ∧
      ("authorization", Utf8.encode (Bearer.header token)) ∈ call.headers := by
  obtain ⟨hheaders, hurl⟩ := ofRequest_eq_ok h
  obtain ⟨given, hcall⟩ := headersOf_eq_ok hheaders htoken
  refine ⟨hurl, ?_⟩
  rw [hcall]
  exact List.mem_append_right _ (List.mem_singleton_self _)

end WebSocketCall

/-- How the token of a rule travels: it was issued for the interface the entry
lists first, and it is the security part of that interface which decides whether
the rule's address, and with it every request that carries the token, is under
the secure scheme. -/
structure OrchestrationRule.SendsAsIssued (entry : OrchestrationEntry) (rule : OrchestrationRule)
    (token : String) : Prop where
  issued : ∃ tokens name, entry.authorizationTokens = some tokens ∧
    (name, token) ∈ tokens.entries ∧ rule.service.interface.spelledBy name = true
  secured : ∃ first protocol security payload, entry.interfaces.head? = some first ∧
    Text.splitOn '-' first.name.toList = [protocol, security, payload] ∧
    (rule.OverTls rule.url ↔ Text.upper (String.ofList security) = "SECURE")
  http : rule.protocol = "HTTP" → ∀ request call, HttpCall.ofRequest rule request = .ok call →
    ("authorization", Utf8.encode (Bearer.header token)) ∈ call.headers ∧
      (rule.OverTls call.url ↔ rule.OverTls rule.url)
  webSocket : ∀ request call, WebSocketCall.ofRequest rule request = .ok call →
    ("authorization", Utf8.encode (Bearer.header token)) ∈ call.headers ∧
      (rule.OverTls call.url ↔ rule.OverTls rule.url)

namespace OrchestrationRule

variable {rule : OrchestrationRule}

theorem origin_of_http (h : rule.protocol = "HTTP") : '#' ∉ rule.origin := by
  have hlower : Text.lower "HTTP" = "http" := by decide +kernel
  rw [origin, scheme, h, hlower]
  cases rule.isSecure with
  | true => decide
  | false => decide

/-- Parameters do not change the scheme of an address. -/
theorem origin_prefix_httpCall (h : rule.protocol = "HTTP") (request : ConsumeRequest) :
    rule.origin <+: (HttpCall.urlOf rule request).toList := by
  unfold HttpCall.urlOf
  split
  · exact rule.origin_prefix_url
  · exact Http.prefix_appendQuery rule.origin_prefix_url (origin_of_http h) _

theorem origin_prefix_webSocketCall (rule : OrchestrationRule) (query : Params) :
    rule.origin <+: (WebSocketCall.urlOf rule.url query).toList := by
  unfold WebSocketCall.urlOf
  split
  · exact rule.origin_prefix_url
  · rw [String.toList_append, String.toList_append, List.append_assoc]
    exact rule.origin_prefix_url.trans (List.prefix_append _ _)

/-- Tokens travel as the orchestrator issued them. -/
theorem sendsAsIssued_of_ofEntry {entry : OrchestrationEntry} {method token : String}
    (h : ofEntry entry method = .ok rule) (htoken : rule.token = some token) :
    rule.SendsAsIssued entry token := by
  obtain ⟨hservice, hissued⟩ := serviceOf_of_ofEntry h
  have hown : rule.OverTls rule.url ↔ rule.isSecure = true :=
    overTls_iff_of_origin rule.origin_prefix_url
  refine ⟨?issued, ?secured, ?http, ?webSocket⟩
  case issued =>
    rw [htoken] at hissued
    obtain ⟨hfound, -⟩ := Option.filter_eq_some_iff.1 hissued.symm
    obtain ⟨tokens, htokens, hfound⟩ := Option.bind_eq_some_iff.1 hfound
    obtain ⟨name, hmem, hspelled⟩ := tokenFor_eq_some hfound
    exact ⟨tokens, name, htokens, hmem, hspelled⟩
  case secured =>
    obtain ⟨first, hfirst, hinterface⟩ := interface_of_serviceOf hservice
    obtain ⟨protocol, security, payload, hparts, hsecure⟩ :=
      Interface.isSecure_of_ofString hinterface
    exact ⟨first, protocol, security, payload, hfirst, hparts, hown.trans hsecure⟩
  case http =>
    intro hprotocol request call hcall
    obtain ⟨hurl, hbearer⟩ := HttpCall.url_and_bearer_of_ofRequest hcall htoken
    refine ⟨hbearer, ?_⟩
    rw [hown, hurl]
    exact overTls_iff_of_origin (origin_prefix_httpCall hprotocol request)
  case webSocket =>
    intro request call hcall
    obtain ⟨hurl, hbearer⟩ := WebSocketCall.url_and_bearer_of_ofRequest hcall htoken
    refine ⟨hbearer, ?_⟩
    rw [hown, hurl]
    exact overTls_iff_of_origin (rule.origin_prefix_webSocketCall request.query)

/-- What an orchestrator answers that found one provider of a service and issued a
token for its interface. -/
def entryWithToken (interface token : String) : OrchestrationEntry where
  provider := ⟨"provider", "10.0.0.2", 8000, none⟩
  service := { definition := "echo" }
  uri := "echo"
  security := some "TOKEN"
  metadata := none
  interfaces := [{ name := interface }]
  version := none
  authorizationTokens := some (Dict.ofList [(interface, token)])
  warnings := []

/-- The rule for such an answer. -/
def echoWithToken (interface : Interface) (token : String) : OrchestrationRule where
  service := ⟨"echo", "echo", interface, .token, ∅, none⟩
  provider := ⟨"provider", "10.0.0.2", 8000, none⟩
  method := "GET"
  token := some token

/-- A token for a secure interface is sent to an `https` address. -/
theorem sendsAsIssued_of_ofEntry_secure :
    ofEntry (entryWithToken "HTTP-SECURE-JSON" "tok") "GET" =
        .ok (echoWithToken ⟨"HTTP", "SECURE", "JSON"⟩ "tok") ∧
      (echoWithToken ⟨"HTTP", "SECURE", "JSON"⟩ "tok").SendsAsIssued
        (entryWithToken "HTTP-SECURE-JSON" "tok") "tok" :=
  have hrule : ofEntry (entryWithToken "HTTP-SECURE-JSON" "tok") "GET" =
      .ok (echoWithToken ⟨"HTTP", "SECURE", "JSON"⟩ "tok") := by decide +kernel
  ⟨hrule, sendsAsIssued_of_ofEntry hrule rfl⟩

/-- A token for an insecure interface is taken over as well, and sent in plain
text. -/
theorem exists_token_not_overTls :
    ∃ entry method rule token call, ofEntry entry method = .ok rule ∧ rule.token = some token ∧
      ¬ rule.OverTls rule.url ∧ HttpCall.ofRequest rule .empty = .ok call ∧
      call.url = "http://10.0.0.2:8000/echo" ∧
      call.headers = [("authorization", Utf8.encode (Bearer.header token))] := by
  refine ⟨entryWithToken "HTTP-INSECURE-JSON" "tok", "GET",
    echoWithToken ⟨"HTTP", "INSECURE", "JSON"⟩ "tok", "tok",
    ⟨"GET", "http://10.0.0.2:8000/echo", [("authorization", Utf8.encode (Bearer.header "tok"))],
      none⟩, ?_, rfl, ?_, ?_, rfl, rfl⟩
  · decide +kernel
  · rw [overTls_iff_of_origin (origin_prefix_url _)]
    decide
  · decide +kernel

end OrchestrationRule

end LocalCloud
