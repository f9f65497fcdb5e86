import LocalCloud.Flags
import LocalCloud.Message.Registry

/-!
# Messages of the orchestrator

The request to resolve a service and the providers the orchestrator answers
with.
-/

namespace LocalCloud

/-- The request to resolve a service. -/
structure OrchestrationForm where
  requester : System
  requested : QueryForm
  flags : Dict Json.Value
  preferred : List System := []
  commands : Dict String := ∅

namespace OrchestrationForm

def toJson (form : OrchestrationForm) : Json.Value :=
  .object <|
    [("requesterSystem", form.requester.toJson),
      ("requestedService", form.requested.toJson),
      ("orchestrationFlags", .object form.flags.entries)]
    ++ Json.Value.listField "preferredProviders"
      (form.preferred.map fun system => .object [("providerSystem", system.toJson)])
    ++ Json.Value.textsField "commands" form.commands

end OrchestrationForm

/-- One provider found by the orchestrator. -/
structure OrchestrationEntry where
  provider : System
  service : DefinitionEntry
  uri : String
  security : Option String
  metadata : Option (Dict String)
  interfaces : List InterfaceEntry
  version : Option Int64
  authorizationTokens : Option (Dict String)
  warnings : List String
deriving DecidableEq

open Json.Decode

def OrchestrationEntry.decode : Json.Decoder OrchestrationEntry := fun node => do
  match ← record ["provider", "service", "serviceUri", "secure", "metadata", "interfaces",
      "version", "authorizationTokens", "warnings"] node with
  | [provider, service, uri, security, metadata, interfaces, version, tokens, warnings] =>
    some {
      provider := ← required System.decode provider
      service := ← required DefinitionEntry.decode service
      uri := ← nullDefault "" string uri
      security := ← optional string security
      metadata := ← optional (dict string) metadata
      interfaces := ← nullDefault [] (list InterfaceEntry.decode) interfaces
      version := ← optional word64 version
      authorizationTokens := ← optional (dict string) tokens
      warnings := ← nullDefault [] (list string) warnings }
  | _ => none

/-- The answer of the orchestrator. -/
structure OrchestrationResponse where
  entries : List OrchestrationEntry
deriving DecidableEq

def OrchestrationResponse.decode : Json.Decoder OrchestrationResponse := fun node => do
  match ← record ["response"] node with
  | [entries] => some { entries := ← nullDefault [] (list OrchestrationEntry.decode) entries }
  | _ => none

end LocalCloud
