import LocalCloud.Key.Certificate
import LocalCloud.Service
import LocalCloud.Token.Basic
import LocalCloud.Token.Bearer

/-!
# Access policies

Who may call a provided service.  A policy is compiled once, when the service is
declared, and consulted for every request.  The public key of the authorization
system may arrive later, so it is no part of a compiled policy: it is given,
together with the time, at the moment of each check, and without it every token
is refused.
-/

namespace LocalCloud

open Crypto.Rsa (PrivateKey)

/-- What a provider knows about a caller. -/
structure AccessRequest where
  /-- The PEM text of the caller's certificate. -/
  certificate : Option String := none
  /-- The value of the `Authorization` header. -/
  authorization : Option String := none
deriving DecidableEq, Repr

/-- What a check depends on beside the policy and the caller. -/
structure Moment where
  /-- The public key of the authorization system in PEM form, once it is known. -/
  authorizationKey : Option String
  /-- The time in seconds since 1970. -/
  now : Int64

/-- The policy of a service that is called with authorization tokens. -/
structure TokenPolicy where
  providerKey : PrivateKey
  definition : String
  interface : Interface

namespace TokenPolicy

/-- The common name of a certificate that is not blank. -/
def callerName (certificate : Option String) : Except Error String :=
  match certificate.filter (fun pem => !Text.isAllBlank pem) with
  | none => .error (.invalidToken "no client certificate")
  | some pem => Certificate.commonNameOfPem pem

/-- Whether claims grant this service to a caller. -/
def grants (policy : TokenPolicy) (claims : Claims) (caller : String) : Bool :=
  claims.consumer.toList.isPrefixOf caller.toList
    && policy.interface.spelledBy claims.interface
    && claims.service == policy.definition

/-- Checks a token; a failure tells why it cannot be judged. -/
def check (policy : TokenPolicy) (moment : Moment) (token : String) (certificate : Option String) :
    Except Error Bool := do
  let key ← Error.ofOption (.invalidToken "authorization public key not available")
    moment.authorizationKey
  let claims ← Token.verify token policy.providerKey key moment.now
  let caller ← callerName certificate
  return policy.grants claims caller

/-- Decides a request.  Only an unusable `Authorization` header is a failure; a
token that cannot be judged is refused. -/
def isAuthorized (policy : TokenPolicy) (moment : Moment) (request : AccessRequest) :
    Except Error Bool := do
  let token ← Bearer.token request.authorization
  match policy.check moment token request.certificate with
  | .ok granted => return granted
  | .error _ => return false

end TokenPolicy

/-- A compiled access policy. -/
inductive AccessPolicy where
  | unrestricted
  | certificate
  | token (policy : TokenPolicy)

namespace AccessPolicy

/-- The failure for a token policy without a provider key. -/
def noProviderKey (definition : String) : Error :=
  .config ("service '" ++ definition ++ "' uses the token policy but no provider key is configured")

def ofService (service : Service) (providerKey : Option PrivateKey) : Except Error AccessPolicy :=
  match service.policy with
  | .unrestricted => .ok unrestricted
  | .certificate => .ok certificate
  | .token =>
    match providerKey with
    | none => .error (noProviderKey service.definition)
    | some key => .ok (token ⟨key, service.definition, service.interface⟩)

/-- Compiles the policy of a given name for a service, whatever the service
itself declares. -/
def ofName (name : String) (service : Service) (providerKey : Option PrivateKey) :
    Except Error AccessPolicy := do
  let kind ← PolicyKind.ofName name
  ofService { service with policy := kind } providerKey

def kind : AccessPolicy → PolicyKind
  | unrestricted => .unrestricted
  | certificate => .certificate
  | token _ => .token

def isAuthorized (policy : AccessPolicy) (moment : Moment) (request : AccessRequest) :
    Except Error Bool :=
  match policy with
  | unrestricted => .ok true
  | certificate => .ok (request.certificate.any fun pem => !Text.isAllBlank pem)
  | token policy => policy.isAuthorized moment request

end AccessPolicy

end LocalCloud
