import LocalCloud.Message.Orchestration
import LocalCloud.Token.Bearer

/-!
# Orchestration rules

A consumed service bound to one provider.  A rule starts out active and is
deactivated, for good, when a call through it fails below the protocol.
-/

namespace LocalCloud

/-- A consumed service bound to a provider, a method and possibly a token. -/
structure OrchestrationRule where
  service : Service
  provider : System
  /-- The method in upper case. -/
  method : String
  /-- The token for the provider; never empty. -/
  token : Option String := none
  active : Bool := true
deriving DecidableEq

namespace OrchestrationRule

/-- An active rule.  The method may be in any case, and an empty token is no
token. -/
def ofParts (service : Service) (provider : System) (method : String)
    (token : Option String := none) : OrchestrationRule where
  service := service
  provider := provider
  method := Text.upper method
  token := token.filter (fun token => !token.isEmpty)

def protocol (rule : OrchestrationRule) : String :=
  rule.service.interface.protocol

/-- Whether the provider is called over TLS. -/
def isSecure (rule : OrchestrationRule) : Bool :=
  rule.service.interface.isSecure

/-- The payload format of the rule's interface. -/
def payload (rule : OrchestrationRule) : String :=
  rule.service.interface.payload

/-- Address and port of the provider. -/
def authority (rule : OrchestrationRule) : String :=
  rule.provider.authority

/-- The authority and the path at the provider. -/
def endpoint (rule : OrchestrationRule) : String :=
  rule.authority ++ "/" ++ rule.service.uriPath

/-- The scheme of the protocol, or its secure variant. -/
def scheme (rule : OrchestrationRule) : String :=
  Text.lower rule.protocol ++ (if rule.isSecure then "s" else "")

/-- The address a call is sent to. -/
def url (rule : OrchestrationRule) : String :=
  rule.scheme ++ "://" ++ rule.endpoint

def toString (rule : OrchestrationRule) : String :=
  rule.method ++ " " ++ rule.service.definition ++ " via " ++ rule.url ++ " ("
    ++ rule.service.interface.toString ++ ")"

/-- The `Authorization` header of a call through the rule. -/
def bearerHeader (rule : OrchestrationRule) : Option String :=
  rule.token.map Bearer.header

/-- The rule after a failed call. -/
def deactivate (rule : OrchestrationRule) : OrchestrationRule :=
  { rule with active := false }

def tokenFor (interface : Interface) (tokens : Dict String) : Option String :=
  (tokens.entries.find? fun entry => interface.spelledBy entry.1).map (·.2)

/-- The failure for an entry without interfaces. -/
def noInterface (entry : OrchestrationEntry) : Error :=
  .orchestration ("provider " ++ entry.provider.toString ++ " of '" ++ entry.service.definition
    ++ "' lists no interface")

/-- The service an entry describes, with its first interface. -/
def serviceOf (entry : OrchestrationEntry) : Except Error Service := do
  let first ← Error.ofOption (noInterface entry) entry.interfaces.head?
  let interface ← Interface.ofString first.name
  let policy ← match entry.security with
    | none => .ok PolicyKind.unrestricted
    | some name => PolicyKind.ofName name
  return {
    definition := entry.service.definition
    uri := entry.uri
    interface := interface
    policy := policy
    metadata := entry.metadata.getD ∅
    version := entry.version }

def ofEntry (entry : OrchestrationEntry) (method : String) : Except Error OrchestrationRule := do
  let service ← serviceOf entry
  return ofParts service entry.provider method
    (entry.authorizationTokens.bind (tokenFor service.interface))

/-- The rules for the usable entries, in order. -/
def ofEntries (entries : List OrchestrationEntry) (method : String) : List OrchestrationRule :=
  entries.filterMap fun entry => (ofEntry entry method).toOption

end OrchestrationRule

end LocalCloud
