import LocalCloud.Proofs.Access.ConsumerBinding
import LocalCloud.Proofs.Http.HeaderValues
import LocalCloud.Proofs.Provider.Mediation

/-!
# What a handler sees of checked credentials

A token policy is shown the first `Authorization` value of a request, and the
certificate that a trusted proxy forwards is read from the first value of its
header.  The handler is handed a dictionary, which keeps the last readable value of
every name.  It therefore sees what was checked exactly when the first value is
also the last readable one, as it is for a header that is not repeated.
-/

namespace LocalCloud

open Crypto.Rsa (PrivateKey)
open Http (Headers Request)

/-- A caller to whom a token policy says yes has shown a header and a certificate. -/
theorem TokenPolicy.exists_shown_of_isAuthorized {policy : TokenPolicy} {moment : Moment}
    {access : AccessRequest} (h : policy.isAuthorized moment access = .ok true) :
    ∃ pem text, access = ⟨some pem, some text⟩ := by
  obtain ⟨token, htoken, hgranted⟩ := isAuthorized_eq_ok_iff.1 h
  have hcheck := hgranted.1 rfl
  obtain ⟨key, -, hcheck⟩ := Error.bind_eq_ok_iff.1 hcheck
  obtain ⟨claims, -, hcheck⟩ := Error.bind_eq_ok_iff.1 hcheck
  obtain ⟨caller, hcaller, -⟩ := Error.bind_eq_ok_iff.1 hcheck
  obtain ⟨hpresented, -⟩ := callerName_eq_ok_iff.1 hcaller
  obtain ⟨certificate, authorization⟩ := access
  obtain rfl : certificate = some _ := hpresented
  cases authorization with
  | none => exact nomatch htoken
  | some text => exact ⟨_, text, rfl⟩

/-- What becomes of a header value that was checked on the way to a handler. -/
structure HandsOn (headers : Headers) (received : ServiceRequest) (name checked : String) :
    Prop where
  first : headers.firstText? name = some checked
  handed : received.headers.get? name = headers.lastText? name
  same_iff : received.headers.get? name = some checked ↔
    headers.lastText? name = headers.firstText? name
  /-- A header that is not repeated is handed on as it was checked. -/
  once : (headers.values name).length ≤ 1 → received.headers.get? name = some checked

theorem HandsOn.of_headers_eq {headers : Headers} {received : ServiceRequest}
    {name checked : String} (hreceived : received.headers = Dict.ofList headers.texts)
    (hfirst : headers.firstText? name = some checked) : HandsOn headers received name checked := by
  have hhanded : received.headers.get? name = headers.lastText? name := by
    rw [hreceived, Headers.get?_ofList_texts]
  refine ⟨hfirst, hhanded, ?same_iff, ?once⟩
  case same_iff => rw [hhanded, hfirst]
  case once =>
    intro hlength
    rw [hhanded, Headers.lastText?_eq_firstText? hlength, hfirst]

/-- What the handler of a service with tokens receives of the credentials with which
its caller was admitted. -/
structure SeesCredentials (proxyHeader : Option String) (moment : Moment) (policy : TokenPolicy)
    (request : Request) (received : ServiceRequest) : Prop where
  authorization : ∃ pem text, policy.isAuthorized moment ⟨some pem, some text⟩ = .ok true ∧
    CallerCertificate proxyHeader request pem ∧
    HandsOn request.headers received "authorization" text
  /-- Without a verified peer the certificate was decoded from the header of the
  proxy. -/
  forwarded : (∀ pem, request.peer ≠ .verified pem) → ∃ name text pem,
    proxyHeader = some name ∧ Percent.decode? text = some pem ∧
      CallerCertificate proxyHeader request pem ∧ HandsOn request.headers received name text

namespace ProvidedService

variable {H : Type} {proxyHeader : Option String} {moment : Moment} {provided : ProvidedService H}
  {request : Request} {received : ServiceRequest}

theorem headers_of_accept (h : accept proxyHeader moment provided request = .ok received) :
    received.headers = Dict.ofList request.headers.texts := by
  unfold accept at h
  cases hauthorize : authorize proxyHeader moment provided request with
  | error refusal =>
      rw [hauthorize] at h
      exact nomatch h
  | ok admitted =>
      rw [hauthorize] at h
      cases hread : readBody request.body with
      | error refusal =>
          rw [hread] at h
          exact nomatch h
      | ok body =>
          rw [hread] at h
          rw [← Except.ok.inj h]

theorem admits_of_accept (h : accept proxyHeader moment provided request = .ok received) :
    Admits proxyHeader moment request provided.policy := by
  have hverdict := accept_verdict proxyHeader moment provided request
  rw [h] at hverdict
  cases hverdict with
  | admitted hadmits _ _ _ => exact hadmits

theorem seesCredentials_of_accept {policy : TokenPolicy} (hpolicy : provided.policy = .token policy)
    (h : accept proxyHeader moment provided request = .ok received) :
    SeesCredentials proxyHeader moment policy request received := by
  have hheaders := headers_of_accept h
  have hadmits := admits_of_accept h
  rw [hpolicy] at hadmits
  obtain ⟨-, access, hpresents, hauthorized⟩ := hadmits
  obtain ⟨pem, text, rfl⟩ := TokenPolicy.exists_shown_of_isAuthorized hauthorized
  have hcertificate := (hpresents.certificate pem).1 rfl
  have htext : request.headers.firstText? "authorization" = some text :=
    Headers.firstText?_eq_some_iff.2 ((hpresents.authorization text).1 rfl)
  refine ⟨⟨pem, text, hauthorized, hcertificate, .of_headers_eq hheaders htext⟩, ?forwarded⟩
  case forwarded =>
    intro hpeer
    cases hcertificate with
    | verified hverified => exact absurd hverified (hpeer pem)
    | forwarded hpeer hname hfirst hvalue hdecode =>
        have htext := Headers.firstText?_eq_some_iff.2 ⟨_, hfirst, hvalue⟩
        exact ⟨_, _, pem, hname, hdecode, .forwarded hpeer hname hfirst hvalue hdecode,
          .of_headers_eq hheaders htext⟩

end ProvidedService

/-- A bearer header for an issued token is read back as it was written. -/
theorem Token.headerText?_header_of_issue {authorizationKey providerKey : PrivateKey}
    {algorithm : SignatureAlgorithm} {hash : Crypto.Hash} {encryption : ContentEncryption}
    {random : Envelope.Randomness} {claims : Claims} {token : String}
    (hissue : issue authorizationKey algorithm hash providerKey.publicKey encryption random claims =
      .ok token) :
    Http.headerText? (Utf8.encode (Bearer.header token)) = some (Bearer.header token) := by
  obtain ⟨wrapped, -, rfl⟩ := Envelope.encrypt_eq_ok_iff.1 hissue
  apply Http.headerText?_encode
  unfold Http.IsPrintable
  rw [Bearer.header, String.toList_append, List.forall_mem_append]
  constructor
  · simp [Bearer.scheme]
  · apply Envelope.forall_mem_compact
    · decide
    · decide

namespace Provider

variable {H E : Type}

/-- Of the credentials that opened a service, its handler sees the last readable
values, where the first ones were checked. -/
theorem seesCredentials_of_route (provider : Provider H E) (moment : Moment) (request : Request)
    (provided : ProvidedService H) (policy : TokenPolicy)
    (hroute : provider.route request.target.path request.method = .service provided)
    (hpolicy : provided.policy = .token policy) :
    ∀ call ∈ provider.handlerCalls moment request,
      SeesCredentials provider.proxyHeader moment policy request call.2 := by
  intro call hcall
  rw [handlerCalls_of_service hroute] at hcall
  cases haccept : ProvidedService.accept provider.proxyHeader moment provided request with
  | error refusal =>
      rw [haccept] at hcall
      exact nomatch hcall
  | ok received =>
      rw [haccept] at hcall
      obtain rfl := List.mem_singleton.1 hcall
      exact ProvidedService.seesCredentials_of_accept hpolicy haccept

section Example

/-- The service of the echo policy, under any policy. -/
def echoProvided (policy : AccessPolicy) : ProvidedService Unit where
  service := TokenPolicy.echoService
  provider := ⟨"provider", "127.0.0.1", 7000, none⟩
  method := "GET"
  handler := ()
  policy := policy

def echoProvider (policy : AccessPolicy) : Provider Unit Unit where
  services := [echoProvided policy]

/-- A request for that service by a verified peer. -/
def echoRequest (commonName : String) (headers : Headers) : Request where
  method := "GET"
  target := ⟨"/echo", none⟩
  headers := headers
  peer := .verified (Certificate.pemOfDer (Certificate.minimal commonName))

theorem route_echoRequest (policy : AccessPolicy) (commonName : String) (headers : Headers) :
    (echoProvider policy).route (echoRequest commonName headers).target.path
      (echoRequest commonName headers).method = .service (echoProvided policy) := by
  change (echoProvider policy).route "/echo" "GET" = .service (echoProvided policy)
  cbv

/-- Behind a token that the authorization system issued, other headers reach the
handler too. -/
theorem exists_handlerCalls_echoRequest (more : Headers) :
    ∃ token received, Token.issueProth TokenPolicy.echoClaims = .ok token ∧
      let request := echoRequest ("consumer" ++ "." ++ "testcloud.company.arrowhead.eu")
        (("authorization", Utf8.encode (Bearer.header token)) :: more)
      request.headers.firstText? "authorization" = some (Bearer.header token) ∧
        (echoProvider (.token TokenPolicy.echoPolicy)).handlerCalls TokenPolicy.knownMoment
          request = [((), received)] ∧
        received.headers = Dict.ofList request.headers.texts := by
  obtain ⟨token, hissue, hbears⟩ := TokenPolicy.exists_bearsToken "consumer"
    "testcloud.company.arrowhead.eu" (by decide)
  have hgrants : TokenPolicy.echoPolicy.grants TokenPolicy.echoClaims
      ("consumer" ++ "." ++ "testcloud.company.arrowhead.eu") = true := by decide
  have hauthorized :=
    TokenPolicy.isAuthorized_of_bearsToken TokenPolicy.compiledFor_echoPolicy hbears
  rw [hgrants] at hauthorized
  generalize "consumer" ++ "." ++ "testcloud.company.arrowhead.eu" = commonName at hauthorized ⊢
  let request := echoRequest commonName
    (("authorization", Utf8.encode (Bearer.header token)) :: more)
  have hfirst : request.headers.firstText? "authorization" = some (Bearer.header token) := by
    rw [Headers.firstText?_eq]
    exact Token.headerText?_header_of_issue hissue
  have hcredentials : credentials none request = TokenPolicy.requestWith token commonName := by
    rw [credentials, hfirst]
    rfl
  have hadmits : Admits none TokenPolicy.knownMoment request (.token TokenPolicy.echoPolicy) := by
    refine ⟨.inl (by simp [request, echoRequest]), credentials none request, presents_iff.2 rfl, ?_⟩
    rw [hcredentials]
    exact hauthorized
  have hroute := route_echoRequest (.token TokenPolicy.echoPolicy) commonName request.headers
  obtain ⟨received, haccept, hcalls⟩ :=
    exists_handlerCalls_of_admits hroute hadmits (Nat.zero_le _)
  have hheaders := ProvidedService.headers_of_accept haccept
  exact ⟨token, received, hissue, hfirst, hcalls, hheaders⟩

/-- A request with a single `Authorization` header. -/
theorem seesCredentials_of_route_once :
    ∃ token received, Token.issueProth TokenPolicy.echoClaims = .ok token ∧
      let policy := TokenPolicy.echoPolicy
      let provider := echoProvider (.token policy)
      let request := echoRequest ("consumer" ++ "." ++ "testcloud.company.arrowhead.eu")
        [("authorization", Utf8.encode (Bearer.header token))]
      provider.route request.target.path request.method =
          .service (echoProvided (.token policy)) ∧
        (echoProvided (.token policy)).policy = .token policy ∧
        provider.handlerCalls TokenPolicy.knownMoment request = [((), received)] ∧
        SeesCredentials none TokenPolicy.knownMoment policy request received ∧
        received.headers.get? "authorization" = some (Bearer.header token) := by
  obtain ⟨token, received, hissue, hfirst, hcalls, hheaders⟩ := exists_handlerCalls_echoRequest []
  have hroute := route_echoRequest (.token TokenPolicy.echoPolicy)
    ("consumer" ++ "." ++ "testcloud.company.arrowhead.eu")
    [("authorization", Utf8.encode (Bearer.header token))]
  have hsees := seesCredentials_of_route _ TokenPolicy.knownMoment _ _ TokenPolicy.echoPolicy
    hroute rfl _ (hcalls ▸ List.mem_singleton_self _)
  exact ⟨token, received, hissue, hroute, rfl, hcalls, hsees,
    (HandsOn.of_headers_eq hheaders hfirst).once (Nat.le_refl 1)⟩

/-- A second `Authorization` header takes the place of the one that was checked. -/
theorem exists_handed_not_checked :
    ∃ token received, Token.issueProth TokenPolicy.echoClaims = .ok token ∧
      let policy := TokenPolicy.echoPolicy
      let provider := echoProvider (.token policy)
      let request := echoRequest ("consumer" ++ "." ++ "testcloud.company.arrowhead.eu")
        [("authorization", Utf8.encode (Bearer.header token)), ("authorization", [120])]
      provider.route request.target.path request.method =
          .service (echoProvided (.token policy)) ∧
        (credentials none request).authorization = some (Bearer.header token) ∧
        provider.handlerCalls TokenPolicy.knownMoment request = [((), received)] ∧
        received.headers.get? "authorization" = some "x" ∧
        received.headers.get? "authorization" ≠ some (Bearer.header token) := by
  obtain ⟨token, received, hissue, hfirst, hcalls, hheaders⟩ :=
    exists_handlerCalls_echoRequest [("authorization", [120])]
  have hroute := route_echoRequest (.token TokenPolicy.echoPolicy)
    ("consumer" ++ "." ++ "testcloud.company.arrowhead.eu")
    [("authorization", Utf8.encode (Bearer.header token)), ("authorization", [120])]
  have htext := Token.headerText?_header_of_issue hissue
  have hhanded : received.headers.get? "authorization" = some "x" := by
    rw [hheaders, Headers.get?_ofList_texts]
    change (List.filterMap Http.headerText?
      [Utf8.encode (Bearer.header token), [120]]).getLast? = some "x"
    rw [List.filterMap_cons_some htext]
    rfl
  refine ⟨token, received, hissue, hroute, hfirst, hcalls, hhanded, ?_⟩
  rw [hhanded]
  intro hsame
  have hlength := congrArg String.length (Option.some.inj hsame)
  simp only [Bearer.header, Bearer.scheme, String.length_append] at hlength
  have hbearer : "Bearer".length = 6 := rfl
  have hshort : "x".length = 1 := rfl
  omega

end Example

end Provider

end LocalCloud
