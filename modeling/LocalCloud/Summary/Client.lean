import LocalCloud.Client.Basic
import LocalCloud.Summary.Access
import LocalCloud.Summary.Provider

/-!
# Summaries of clients

The configuration a client runs with, the core services as it reaches them, and
what it has registered, subscribed to and learnt so far.
-/

namespace LocalCloud

open scoped Summary

instance : Summary KeyFiles where
  summary keys := .object
    [("keyfile", keys.keyfile), ("certfile", keys.certfile), ("cafile", keys.cafile),
      ("authorization_public_key", keys.authorizationPublicKey)]

instance : Summary CoreAddress where
  summary core := .object [("address", core.address), ("port", core.port)]

instance : Summary CoreAddresses where
  summary core := .object
    [("service_registry", core.serviceRegistry), ("orchestrator", core.orchestrator),
      ("authorization", core.authorization), ("event_handler", core.eventHandler)]

namespace Config

/-- Everything a configuration says, by name. -/
def fields (config : Config) : List (String × Json.Value) :=
  [("system_name", config.systemName), ("address", config.address), ("port", config.port),
    ("secure", config.secure), ("tls", config.keys), ("core", config.core),
    ("timeout_secs", config.timeoutSeconds), ("orchestration_flags", config.flags),
    ("trusted_proxy_cert_header", config.trustedProxyHeader),
    ("fail_on_registration_error", config.failOnRegistrationError),
    ("identity_files", config.identityFiles?)]

end Config

instance : Summary Config := ⟨fun config => .object config.fields⟩

def CoreService.summary (service : CoreService) (config : Config) : Json.Value :=
  let address := service.system.address config
  .object
    [("display", service.definition), ("definition", service.definition),
      ("uri", service.uri), ("method", service.method), ("system", service.system.name),
      ("address", address.address), ("port", address.port), ("rule", service.rule config)]

instance {C H E : Type} : Summary (Client C H E) where
  summary client := .object
    [("rules", client.rules), ("provided", client.services), ("subscribed", client.events),
      ("key_set", client.authorizationKey.isSome)]

end LocalCloud
