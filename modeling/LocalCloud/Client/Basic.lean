import LocalCloud.Client.CoreService
import LocalCloud.Client.Identity
import LocalCloud.Client.Request
import LocalCloud.Consumer.Registry
import LocalCloud.Orchestration.Store
import LocalCloud.Provider.Lifecycle
import LocalCloud.Provider.Wiring

/-!
# Clients

A client of the local cloud: its configuration, what it provides and subscribes
to, the rules it has been given and the keys it checks tokens with.  Everything
that changes while it runs is in this value.
-/

namespace LocalCloud

open Crypto.Rsa (PrivateKey)

/-- A service that is to be provided. -/
structure ServiceDeclaration (H : Type) where
  service : Service
  method : String
  handler : H

/-- An event that is to be subscribed to, with the identifier that makes the
notify URI unique. -/
structure EventDeclaration (E : Type) where
  eventType : String
  callback : E
  metadata : Option (Dict String) := none
  identifier : String

/-- A client. -/
structure Client (C H E : Type) where
  config : Config
  system : System
  consumers : Consumers C
  rules : RuleStore := .empty
  services : ProvidedServices H := .empty
  events : Subscriptions E := .empty
  providerKey : Option PrivateKey := none
  /-- The public key of the authorization system in PEM form, once it is
  known. -/
  authorizationKey : Option String := none

namespace Client

variable {C H E : Type}

def addService (client : Client C H E) (declared : ServiceDeclaration H) :
    Except Error (Client C H E) := do
  let policy ← AccessPolicy.ofService declared.service client.providerKey
  let services ← client.services.insert
    (.declare declared.service client.system declared.method declared.handler policy)
  return { client with services := services }

def addEvent (client : Client C H E) (declared : EventDeclaration E) : Client C H E :=
  { client with
    events := client.events.insert
      (.declare declared.eventType client.system declared.callback declared.metadata
        declared.identifier) }

def readProviderKey (config : Config) (files : Files) : Except Error (Option PrivateKey) :=
  match config.keys.keyfile with
  | none => return none
  | some keyfile => do return some (← RsaKey.privateOfPem (← files.text keyfile))

/-- Reads the public key of the authorization system, if one is configured. -/
def readAuthorizationKey (config : Config) (files : Files) : Except Error (Option String) :=
  match config.keys.authorizationPublicKey with
  | none => return none
  | some path => do return some (← files.text path)

/-- Builds a client that has neither rules nor registrations. -/
def build (config : Config) (files : Files) (consumers : Consumers C)
    (services : List (ServiceDeclaration H)) (events : List (EventDeclaration E)) :
    Except Error (Client C H E) := do
  let system ← config.system files
  ClientIdentity.checkAll config files
  let providerKey ← readProviderKey config files
  let authorizationKey ← readAuthorizationKey config files
  let client : Client C H E := { config, system, consumers, providerKey, authorizationKey }
  let client ← services.foldlM addService client
  return events.foldl addEvent client

/-- What checks depend on at a given time. -/
def moment (client : Client C H E) (now : Int64) : Moment where
  authorizationKey := client.authorizationKey
  now := now

def provider (client : Client C H E) : Except Error (Provider H E) :=
  (Provider.trusting client.config.trustedProxyHeader).addAll client.services.items
    client.events.items

end Client

end LocalCloud
