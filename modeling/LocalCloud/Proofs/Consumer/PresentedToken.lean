import LocalCloud.Proofs.Http.HeaderValues
import LocalCloud.Proofs.Orchestration.TokenTransport
import LocalCloud.Provider.Serve
import Mathlib.Tactic.Common

/-!
# How consumers present a token

A handshake gives every header one value, so it presents the token of its rule
and nothing else.  A request over HTTP gathers values instead: those for the user
in its address, those of the caller, and the token behind them.  A provider reads
the first value, so over HTTP it finds the token only when nothing is in front.
-/

namespace LocalCloud

open Http (Headers Request)

/-- The `Authorization` values that the caller itself gives, under the name in any
case. -/
def ConsumeRequest.ownAuthorization (request : ConsumeRequest) : List Bytes :=
  (request.headers.filter fun header => Text.asciiLower header.1 == "authorization").map
    fun header => Utf8.encode header.2

/-- The value that presents a token. -/
abbrev Bearer.value (token : String) : Bytes := Utf8.encode (Bearer.header token)

namespace HttpCall

/-- Adding headers keeps what is there and appends the new ones in order. -/
theorem foldlM_addHeader_eq_ok {given : List (String × String)} {headers added : Headers}
    (h : given.foldlM (fun headers header => addHeader headers header.1 header.2) headers =
      .ok added) :
    added = headers ++
      given.map fun header => (Text.asciiLower header.1, Utf8.encode header.2) := by
  induction given generalizing headers with
  | nil =>
      rw [List.map_nil, List.append_nil]
      exact (Except.ok.inj h).symm
  | cons header given ih =>
      rw [List.foldlM_cons] at h
      obtain ⟨next, hnext, hrest⟩ := Error.bind_eq_ok_iff.1 h
      rw [ih hrest, addHeader_eq_ok hnext, List.map_cons, List.append_assoc, List.singleton_append]

theorem values_given (request : ConsumeRequest) :
    Headers.values (request.headers.map fun header =>
        (Text.asciiLower header.1, Utf8.encode header.2)) "authorization" =
      request.ownAuthorization := by
  simp only [Headers.values, ConsumeRequest.ownAuthorization, List.filter_map, List.map_map]
  rfl

theorem values_withContentType (headers : Headers) :
    Headers.values (withContentType headers) "authorization" =
      Headers.values headers "authorization" := by
  unfold withContentType
  split
  · rfl
  · simp

/-- The header for the user in the address is an `Authorization` header. -/
theorem values_userHeaders (url : String) :
    Headers.values (userHeaders url) "authorization" = (userHeaders url).map (·.2) := by
  unfold userHeaders
  cases Http.Url.user? url with
  | none => rfl
  | some user => simp

/-- The `Authorization` values of a request over HTTP, in order. -/
theorem values_of_ofRequest {rule : OrchestrationRule} {request : ConsumeRequest}
    {call : HttpCall} {token : String} (hcall : ofRequest rule request = .ok call)
    (htoken : rule.token = some token) :
    Headers.values call.headers "authorization" =
      (userHeaders rule.url).map (·.2) ++ request.ownAuthorization ++ [Bearer.value token] := by
  obtain ⟨headers, hheaders, -, hsent⟩ := ofRequest_eq_ok hcall
  obtain ⟨given, hgiven, rfl⟩ := headersOf_eq_ok hheaders htoken
  rw [hsent, apply_ite (Headers.values · "authorization"), values_withContentType, ite_self,
    foldlM_addHeader_eq_ok hgiven, Headers.values_append, Headers.values_append, values_given,
    values_userHeaders]
  simp

end HttpCall

namespace WebSocketCall

theorem values_setHeader (headers : Headers) (name : String) (value : Bytes) :
    Headers.values (setHeader headers name value) name = [value] := by
  have hcleared : Headers.values (headers.filter fun header => header.1 != name) name = [] := by
    simp [Headers.values, List.filter_filter]
  rw [setHeader, Headers.values_append, hcleared]
  simp

/-- A handshake has one `Authorization` value. -/
theorem values_of_ofRequest {rule : OrchestrationRule} {request : ConsumeRequest}
    {call : WebSocketCall} {token : String} (hcall : ofRequest rule request = .ok call)
    (htoken : rule.token = some token) :
    Headers.values call.headers "authorization" = [Bearer.value token] := by
  obtain ⟨hheaders, -⟩ := ofRequest_eq_ok hcall
  obtain ⟨given, hsent⟩ := headersOf_eq_ok hheaders htoken
  rw [hsent]
  exact values_setHeader given _ _

end WebSocketCall

namespace OrchestrationRule

/-- A caller over HTTP leaves `Authorization` to the rule: neither the address nor
the call names anyone. -/
def LeftAlone (rule : OrchestrationRule) (request : ConsumeRequest) : Prop :=
  Http.Url.user? rule.url = none ∧
    ∀ header ∈ request.headers, Text.asciiLower header.1 ≠ "authorization"

/-- A received request carries the `Authorization` values that were sent. -/
def Carries (received : Request) (headers : Headers) : Prop :=
  Headers.values received.headers "authorization" = Headers.values headers "authorization"

/-- How the token of a rule arrives. -/
structure PresentsToken (rule : OrchestrationRule) (token : String) : Prop where
  webSocket : ∀ request call, WebSocketCall.ofRequest rule request = .ok call →
    Headers.values call.headers "authorization" = [Bearer.value token]
  http : ∀ request call, HttpCall.ofRequest rule request = .ok call →
    Headers.values call.headers "authorization" =
      (HttpCall.userHeaders rule.url).map (·.2) ++ request.ownAuthorization ++
        [Bearer.value token]
  alone : ∀ request call, HttpCall.ofRequest rule request = .ok call →
    (Headers.values call.headers "authorization" = [Bearer.value token] ↔ rule.LeftAlone request)
  /-- A provider checks the token of a handshake, whatever headers the caller has
  added. -/
  checkedWebSocket : ∀ request call proxyHeader received,
    WebSocketCall.ofRequest rule request = .ok call → Carries received call.headers →
    (credentials proxyHeader received).authorization = Http.headerText? (Bearer.value token)
  checkedHttp : ∀ request call proxyHeader received,
    HttpCall.ofRequest rule request = .ok call → Carries received call.headers →
    rule.LeftAlone request →
    (credentials proxyHeader received).authorization = Http.headerText? (Bearer.value token)

variable {rule : OrchestrationRule} {request : ConsumeRequest}

theorem leftAlone_iff :
    rule.LeftAlone request ↔
      HttpCall.userHeaders rule.url = [] ∧ request.ownAuthorization = [] := by
  have huser : HttpCall.userHeaders rule.url = [] ↔ Http.Url.user? rule.url = none := by
    unfold HttpCall.userHeaders
    cases Http.Url.user? rule.url with
    | none => simp
    | some user => simp
  rw [LeftAlone, huser, ConsumeRequest.ownAuthorization, List.map_eq_nil_iff,
    List.filter_eq_nil_iff]
  simp

/-- A provider reads the only `Authorization` value that was sent. -/
theorem authorization_of_carries {received : Request} {headers : Headers} {value : Bytes}
    (hcarries : Carries received headers) (hvalue : Headers.values headers "authorization" = [value])
    (proxyHeader : Option String) :
    (credentials proxyHeader received).authorization = Http.headerText? value := by
  rw [Carries, hvalue] at hcarries
  rw [credentials, Headers.firstText?_eq, hcarries]
  rfl

/-- Both consumers present the token of a rule; only the one for WebSocket presents
nothing else whatever the caller adds. -/
theorem presentsToken_of_token {token : String} (htoken : rule.token = some token) :
    rule.PresentsToken token := by
  have halone : ∀ request call, HttpCall.ofRequest rule request = .ok call →
      (Headers.values call.headers "authorization" = [Bearer.value token] ↔
        rule.LeftAlone request) := by
    intro request call hcall
    rw [HttpCall.values_of_ofRequest hcall htoken, leftAlone_iff, List.append_left_eq_self,
      List.append_eq_nil_iff, List.map_eq_nil_iff]
  refine ⟨?webSocket, ?http, halone, ?checkedWebSocket, ?checkedHttp⟩
  case webSocket =>
    intro request call hcall
    exact WebSocketCall.values_of_ofRequest hcall htoken
  case http =>
    intro request call hcall
    exact HttpCall.values_of_ofRequest hcall htoken
  case checkedWebSocket =>
    intro request call proxyHeader received hcall hcarries
    have hvalue := WebSocketCall.values_of_ofRequest hcall htoken
    exact authorization_of_carries hcarries hvalue proxyHeader
  case checkedHttp =>
    intro request call proxyHeader received hcall hcarries hleft
    have hvalue := (halone request call hcall).2 hleft
    exact authorization_of_carries hcarries hvalue proxyHeader

/-- A call whose caller brings credentials of its own. -/
def ownCredentials : ConsumeRequest where
  headers := [("Authorization", "Basic dXNlcjpwYXNz")]

/-- The token of a handshake in place of the credentials of the caller. -/
theorem presentsToken_of_token_replacing :
    let rule := echoWithToken ⟨"WS", "INSECURE", "JSON"⟩ "tok"
    rule.token = some "tok" ∧ rule.PresentsToken "tok" ∧
      WebSocketCall.ofRequest rule ownCredentials =
        .ok ⟨"ws://10.0.0.2:8000/echo", [("authorization", Bearer.value "tok")], ""⟩ := by
  intro rule
  have htoken : rule.token = some "tok" := rfl
  refine ⟨htoken, presentsToken_of_token htoken, ?_⟩
  decide +kernel

/-- Over HTTP the credentials of the caller stand before the token, and they are
what a provider checks. -/
theorem exists_authorization_not_token :
    ∃ rule token request call, rule.token = some token ∧
      HttpCall.ofRequest rule request = .ok call ∧
      Headers.values call.headers "authorization" =
        [Utf8.encode "Basic dXNlcjpwYXNz", Bearer.value token] ∧
      ∀ received, Carries received call.headers → ∀ proxyHeader,
        (credentials proxyHeader received).authorization = some "Basic dXNlcjpwYXNz" := by
  refine ⟨echoWithToken ⟨"HTTP", "INSECURE", "JSON"⟩ "tok", "tok", ownCredentials,
    ⟨"GET", "http://10.0.0.2:8000/echo",
      [("authorization", Utf8.encode "Basic dXNlcjpwYXNz"), ("authorization", Bearer.value "tok")],
      none⟩, rfl, ?_, rfl, ?_⟩
  · decide +kernel
  · intro received hcarries proxyHeader
    have hfirst : Headers.values received.headers "authorization" =
        [Utf8.encode "Basic dXNlcjpwYXNz", Bearer.value "tok"] := hcarries
    have htext : Http.headerText? (Utf8.encode "Basic dXNlcjpwYXNz") =
        some "Basic dXNlcjpwYXNz" := by decide +kernel
    rw [credentials, Headers.firstText?_eq, hfirst]
    exact htext

end OrchestrationRule

end LocalCloud
