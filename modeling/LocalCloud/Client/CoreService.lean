import LocalCloud.Config.Basic
import LocalCloud.Consumer.Basic
import LocalCloud.Message.ErrorBody

/-!
# Core services

The services of the local cloud itself: where each one lives, how it is called,
and what its status codes mean.
-/

namespace LocalCloud

/-- The systems that make up a local cloud. -/
inductive CoreSystem where
  | serviceRegistry
  | orchestrator
  | authorization
  | eventHandler
deriving DecidableEq, Repr

namespace CoreSystem

def name : CoreSystem → String
  | serviceRegistry => "service_registry"
  | orchestrator => "orchestrator"
  | authorization => "authorization"
  | eventHandler => "event_handler"

/-- Where a core system is. -/
def address (core : CoreSystem) (config : Config) : CoreAddress :=
  match core with
  | serviceRegistry => config.core.serviceRegistry
  | orchestrator => config.core.orchestrator
  | authorization => config.core.authorization
  | eventHandler => config.core.eventHandler

end CoreSystem

/-- The services of the core systems. -/
inductive CoreService where
  | register
  | unregister
  | query
  | orchestration
  | publicKey
  | publish
  | subscribe
  | unsubscribe
deriving DecidableEq, Repr

namespace CoreService

def all : List CoreService :=
  [register, unregister, query, orchestration, publicKey, publish, subscribe, unsubscribe]

def title : CoreService → String
  | register => "Register"
  | unregister => "Unregister"
  | query => "Query"
  | orchestration => "Orchestration"
  | publicKey => "PublicKey"
  | publish => "Publish"
  | subscribe => "Subscribe"
  | unsubscribe => "Unsubscribe"

def ofTitle? (title : String) : Option CoreService :=
  all.find? fun service => service.title == title

def definition : CoreService → String
  | register => "service-register"
  | unregister => "service-unregister"
  | query => "service-query"
  | orchestration => "orchestration-service"
  | publicKey => "auth-public-key"
  | publish => "event-publish"
  | subscribe => "event-subscribe"
  | unsubscribe => "event-unsubscribe"

def uri : CoreService → String
  | register => "serviceregistry/register"
  | unregister => "serviceregistry/unregister"
  | query => "serviceregistry/query"
  | orchestration => "orchestrator/orchestration"
  | publicKey => "authorization/publickey"
  | publish => "eventhandler/publish"
  | subscribe => "eventhandler/subscribe"
  | unsubscribe => "eventhandler/unsubscribe"

def method : CoreService → String
  | unregister | unsubscribe => "DELETE"
  | publicKey => "GET"
  | register | query | orchestration | publish | subscribe => "POST"

def system : CoreService → CoreSystem
  | register | unregister | query => .serviceRegistry
  | orchestration => .orchestrator
  | publicKey => .authorization
  | publish | subscribe | unsubscribe => .eventHandler

def policy (config : Config) : PolicyKind :=
  if config.secure then .certificate else .unrestricted

/-- The rule through which a core service is called. -/
def rule (service : CoreService) (config : Config) : OrchestrationRule :=
  let policy := policy config
  let address := service.system.address config
  .ofParts
    { definition := service.definition
      uri := service.uri
      interface := .ofPolicy "HTTP" policy "JSON"
      policy := policy }
    ⟨service.system.name, address.address, address.port, none⟩
    service.method

/-- The reason given in a reply that reports a failure: that of an error body, or
else the whole text. -/
def reason (reply : Reply) : String :=
  match reply.json ErrorBody.decode with
  | .ok body => body.reason
  | .error _ => reply.text

def failure (service : CoreService) (status : UInt16) (detail : String) : Error :=
  if status = 400 then
    if service = .orchestration then .orchestration detail else .coreServiceInput detail
  else if status = 401 ∨ status = 403 then .coreServiceNotAuthorized detail
  else if status = 500 then .coreServiceUnavailable detail
  else .unexpectedStatus service.definition status

/-- Accepts a successful reply and reads any other as a failure. -/
def checkStatus (service : CoreService) (reply : Reply) : Except Error Unit :=
  if reply.isSuccess then .ok ()
  else .error (service.failure reply.status (service.definition ++ ": " ++ reason reply))

end CoreService

end LocalCloud
