import LocalCloud.Message.ErrorBody
import LocalCloud.Message.Event
import LocalCloud.Message.Orchestration
import LocalCloud.Summary.Basic

/-!
# Summaries of messages

What the core systems have answered, under snake_case names.
-/

namespace LocalCloud

open scoped Summary

instance : Summary System where
  summary system := .object
    [("name", system.name), ("address", system.address), ("port", system.port),
      ("auth", system.authenticationInfo)]

instance : Summary Flags := ⟨fun flags => summary flags.settings⟩

instance : Summary DefinitionEntry where
  summary entry := .object [("id", entry.id), ("service_definition", entry.definition)]

instance : Summary InterfaceEntry where
  summary entry := .object [("id", entry.id), ("interface_name", entry.name)]

instance : Summary RegistryEntry where
  summary entry := .object
    [("id", entry.id), ("service_definition", entry.definition), ("provider", entry.provider),
      ("service_uri", entry.uri), ("secure", entry.security), ("metadata", entry.metadata),
      ("version", entry.version), ("interfaces", entry.interfaces)]

instance : Summary QueryResult where
  summary result := .object
    [("service_query_data", result.entries), ("unfiltered_hits", result.unfilteredHits)]

instance : Summary OrchestrationEntry where
  summary entry := .object
    [("provider", entry.provider), ("service", entry.service), ("service_uri", entry.uri),
      ("secure", entry.security), ("metadata", entry.metadata),
      ("interfaces", entry.interfaces), ("version", entry.version),
      ("authorization_tokens", entry.authorizationTokens), ("warnings", entry.warnings)]

instance : Summary OrchestrationResponse := ⟨fun response => summary response.entries⟩

instance : Summary Event where
  summary event := .object
    [("event_type", event.eventType), ("meta_data", event.metadata),
      ("payload", event.payload), ("time_stamp", event.timeStamp)]

instance : Summary ErrorBody where
  summary body := .object
    [("message", body.reason), ("code", body.code), ("exception", body.exceptionType)]

end LocalCloud
