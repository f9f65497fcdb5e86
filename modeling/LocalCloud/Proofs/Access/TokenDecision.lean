import LocalCloud.Access.Policy
import LocalCloud.Proofs.Key.SubjectName
import LocalCloud.Proofs.Token.Issuing

/-!
# The decision of a token policy

A token policy fails only for an unusable `Authorization` header.  For every
other request it decides, and it decides in favour of the caller exactly when
the key of the authorization system is known, the token is valid under that key,
and the claims name this caller, this interface and this service.
-/

namespace LocalCloud

open Crypto.Rsa (PrivateKey)

/-- A token policy compiled for a service, under the policy the service declares
or under a name. -/
inductive CompiledFor (service : Service) (providerKey : PrivateKey) (policy : TokenPolicy) :
    Prop where
  | declared (h : AccessPolicy.ofService service (some providerKey) = .ok (.token policy))
  | named (name : String)
      (h : AccessPolicy.ofName name service (some providerKey) = .ok (.token policy))

theorem AccessPolicy.ofService_eq_token {service : Service} {providerKey : PrivateKey}
    {policy : TokenPolicy}
    (h : AccessPolicy.ofService service (some providerKey) = .ok (.token policy)) :
    policy = ⟨providerKey, service.definition, service.interface⟩ := by
  unfold AccessPolicy.ofService at h
  split at h
  · cases h
  · cases h
  · cases h
    rfl

/-- A compiled policy holds the provider's key and what it needs of its service,
but not the key of the authorization system. -/
theorem CompiledFor.eq {service : Service} {providerKey : PrivateKey} {policy : TokenPolicy}
    (h : CompiledFor service providerKey policy) :
    policy = ⟨providerKey, service.definition, service.interface⟩ := by
  cases h with
  | declared h => exact AccessPolicy.ofService_eq_token h
  | named name h =>
      obtain ⟨kind, -, hcompiled⟩ := Error.bind_eq_ok_iff.1 h
      have hpolicy := AccessPolicy.ofService_eq_token hcompiled
      exact hpolicy

/-- A caller's certificate is not blank, and it has a single common name that can
be read. -/
inductive NamesCaller (certificate : Option String) (caller : String) : Prop where
  | intro {pem : String} {found : Certificate} {name : Asn1.Element}
      (hpresented : certificate = some pem)
      (hcontent : Text.HasContent pem)
      (hread : Certificate.ofPem pem = .ok found)
      (hsingle : found.commonNames = [name])
      (htext : Certificate.nameText? name = some caller)

/-- Claims are about a caller and a service: the name of the caller starts with
the consumer, the interface is spelled as that of the service up to ASCII case,
and the definition is the same. -/
structure Claims.Concern (service : Service) (caller : String) (claims : Claims) : Prop where
  consumer : claims.consumer.toList <+: caller.toList
  interface : service.interface.toString.toList.map Text.asciiLowerChar =
    claims.interface.toList.map Text.asciiLowerChar
  definition : claims.service = service.definition

/-- Everything that has to hold for a token to open a service to its bearer. -/
inductive GrantsAccess (service : Service) (providerKey : PrivateKey) (moment : Moment)
    (token : String) (certificate : Option String) : Prop where
  | intro {pem caller : String} {claims : Claims}
      (hkey : moment.authorizationKey = some pem)
      (hvalid : Token.Valid token providerKey pem moment.now claims)
      (hcaller : NamesCaller certificate caller)
      (hconcern : claims.Concern service caller)

theorem Certificate.commonName_eq_ok_iff {certificate : Certificate} {text : String} :
    certificate.commonName = .ok text ↔
      ∃ name, certificate.commonNames = [name] ∧ Certificate.nameText? name = some text := by
  unfold Certificate.commonName
  split
  · rename_i hnone
    simp [hnone]
  · rename_i name hsingle
    simp [hsingle]
  · rename_i hnone hseveral
    constructor
    · intro h
      cases h
    · rintro ⟨name, hname, -⟩
      exact absurd hname (hseveral name)

namespace TokenPolicy

theorem callerName_eq_ok_iff {certificate : Option String} {caller : String} :
    callerName certificate = .ok caller ↔ NamesCaller certificate caller := by
  unfold callerName
  constructor
  · intro h
    split at h
    · cases h
    · rename_i pem hpem
      obtain ⟨hpresented, hblank⟩ := Option.filter_eq_some_iff.1 hpem
      obtain ⟨found, hread, hname⟩ := Error.bind_eq_ok_iff.1 h
      obtain ⟨name, hsingle, htext⟩ := Certificate.commonName_eq_ok_iff.1 hname
      have hcontent : Text.isAllBlank pem = false := by simpa using hblank
      exact ⟨hpresented, Text.isAllBlank_eq_false_iff.1 hcontent, hread, hsingle, htext⟩
  · rintro ⟨hpresented, hcontent, hread, hsingle, htext⟩
    have hname := Certificate.commonName_eq_ok_iff.2 ⟨_, hsingle, htext⟩
    rw [hpresented, Option.filter_some, Text.isAllBlank_eq_false_iff.2 hcontent]
    exact Error.bind_eq_ok_iff.2 ⟨_, hread, hname⟩

theorem grants_iff {service : Service} {providerKey : PrivateKey} {claims : Claims}
    {caller : String} :
    grants ⟨providerKey, service.definition, service.interface⟩ claims caller = true ↔
      claims.Concern service caller := by
  simp only [grants, Bool.and_eq_true, List.isPrefixOf_iff_prefix, beq_iff_eq,
    Interface.spelledBy, Text.eqIgnoringAsciiCase]
  constructor
  · rintro ⟨⟨hconsumer, hinterface⟩, hdefinition⟩
    exact ⟨hconsumer, hinterface, hdefinition⟩
  · rintro ⟨hconsumer, hinterface, hdefinition⟩
    exact ⟨⟨hconsumer, hinterface⟩, hdefinition⟩

/-- Behind a usable header every failure counts as a refusal. -/
theorem isAuthorized_eq_ok_iff {policy : TokenPolicy} {moment : Moment} {request : AccessRequest}
    {granted : Bool} :
    policy.isAuthorized moment request = .ok granted ↔
      ∃ token, Bearer.token request.authorization = .ok token ∧
        (granted = true ↔ policy.check moment token request.certificate = .ok true) := by
  unfold isAuthorized
  cases Bearer.token request.authorization with
  | error found => simp [bind, Except.bind]
  | ok token =>
      simp only [bind, Except.bind, Except.ok.injEq, exists_eq_left']
      cases policy.check moment token request.certificate with
      | error failure => cases granted <;> simp [pure, Except.pure]
      | ok decided => cases granted <;> cases decided <;> simp [pure, Except.pure]

end TokenPolicy

namespace Bearer

end Bearer

namespace TokenPolicy

/-- How a token policy of a service answers a request: it fails for a header
without a token and for nothing else, and otherwise grants or refuses access. -/
structure Decides (service : Service) (providerKey : PrivateKey) (policy : TokenPolicy)
    (moment : Moment) (request : AccessRequest) : Prop where
  fails : (∃ failure, (AccessPolicy.token policy).isAuthorized moment request = .error failure) ↔
    request.authorization = none ∨ ∃ value failure, request.authorization = some value ∧
      Bearer.token (some value) = .error failure
  failure : ∀ failure, (AccessPolicy.token policy).isAuthorized moment request = .error failure →
    ∃ detail, failure = .invalidToken detail
  grants : (AccessPolicy.token policy).isAuthorized moment request = .ok true ↔
    ∃ token, Bearer.token request.authorization = .ok token ∧
      GrantsAccess service providerKey moment token request.certificate
  refuses : (AccessPolicy.token policy).isAuthorized moment request = .ok false ↔
    ∃ token, Bearer.token request.authorization = .ok token ∧
      ¬ GrantsAccess service providerKey moment token request.certificate

section Example

/-- A service for bearers of tokens. -/
def echoService : Service :=
  ⟨"echo", "echo", ⟨"HTTP", "SECURE", "JSON"⟩, .token, ∅, none⟩

/-- Claims for that service, in force since 1970. -/
def echoClaims : Claims where
  issuer := "Authorization"
  issuedAt := 0
  notBefore := 0
  consumer := "consumer"
  service := "echo"
  interface := "HTTP-SECURE-JSON"

def echoPolicy : TokenPolicy :=
  ⟨.proth, echoService.definition, echoService.interface⟩

/-- A moment at which the key of the authorization system is known. -/
def knownMoment : Moment :=
  ⟨some Token.strongProthPem, 1700000000⟩

/-- A request of a caller with a token. -/
def requestWith (token commonName : String) : AccessRequest :=
  ⟨some (Certificate.pemOfDer (Certificate.minimal commonName)), some (Bearer.header token)⟩

theorem compiledFor_echoPolicy : CompiledFor echoService .proth echoPolicy :=
  .declared rfl

theorem namesCaller_minimal {commonName : String}
    (hlength : (Utf8.encode commonName).length < 0x10000) :
    NamesCaller (some (Certificate.pemOfDer (Certificate.minimal commonName))) commonName := by
  have hread := Certificate.ofPem_pemOfDer (Certificate.ofDer?_minimal hlength)
  have hcontent : Text.HasContent (Certificate.pemOfDer (Certificate.minimal commonName)) := by
    refine ⟨'-', ?_, by decide⟩
    rw [Certificate.pemOfDer, Pem.toList_render]
    exact List.mem_append_left _ (by decide)
  exact ⟨rfl, hcontent, hread, rfl, Certificate.nameText?_nameElement commonName⟩

/-- The claims are carried to the policy by a token that the authorization system
issued. -/
theorem exists_issued_valid :
    ∃ token, Token.issueProth echoClaims = .ok token ∧
      Bearer.token (some (Bearer.header token)) = .ok token ∧
      Token.Valid token .proth Token.strongProthPem knownMoment.now echoClaims := by
  obtain ⟨token, hissue⟩ := Token.exists_issueProth echoClaims
  have hforce : echoClaims.InForce knownMoment.now :=
    Claims.validate_eq_ok_iff.1 (by decide)
  exact ⟨token, hissue, Token.token_header_of_issue hissue, Token.valid_of_issueProth hissue hforce⟩

end Example

end TokenPolicy

end LocalCloud
