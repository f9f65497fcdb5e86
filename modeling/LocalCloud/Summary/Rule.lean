import LocalCloud.Orchestration.Store
import LocalCloud.Summary.Message

/-!
# Summaries of services and rules

A service with the path it is called at, a rule with the address it leads to, and
what a store of rules holds at the moment.
-/

namespace LocalCloud

open scoped Summary

instance : Summary Service where
  summary service := .object
    [("definition", service.definition), ("uri", service.uri), ("uri_path", service.uriPath),
      ("interface", service.interface.toString), ("policy", service.policy.name),
      ("metadata", service.metadata), ("version", service.version)]

instance : Summary OrchestrationRule where
  summary rule := .object
    [("service", rule.service), ("provider", rule.provider), ("method", rule.method),
      ("token", rule.token), ("protocol", rule.protocol), ("secure", rule.isSecure),
      ("payload_type", rule.payload), ("authority", rule.authority),
      ("endpoint", rule.endpoint), ("url", rule.url), ("active", rule.active),
      ("display", rule.toString)]

namespace RuleStore

/-- The providers in a list of rules and which of them are still in use. -/
def providers (store : RuleStore) (list : List StoredRule) : List (String × Bool) :=
  list.map fun stored => (stored.rule.provider.toString, store.isActive stored)

end RuleStore

instance : Summary RuleStore where
  summary store := .object
    (store.snapshot.map fun entry => (entry.1, summary (store.providers entry.2)))

end LocalCloud
