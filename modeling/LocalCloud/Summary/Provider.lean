import LocalCloud.Http.Message
import LocalCloud.Provider.Exchange
import LocalCloud.Provider.Lifecycle
import LocalCloud.Summary.Rule

/-!
# Summaries of what a system provides

A provided service with the messages that register it, the state of declared
services and subscriptions, and what became of a bulk operation.
-/

namespace LocalCloud

open scoped Summary

variable {H : Type}

instance : Summary Report where
  summary report := .object
    [("succeeded", report.succeeded), ("skipped", report.skipped), ("failed", report.failed),
      ("clean", report.isClean)]

instance : Summary (ProvidedService H) where
  summary provided := .object
    [("service", provided.service), ("provider", provided.provider),
      ("method", provided.method), ("policy", provided.policy.kind.name),
      ("provided", provided.isProvided), ("form", provided.registrationForm.toJson),
      ("unregistration", provided.unregistrationParams)]

instance : Summary (ProvidedServices H) where
  summary services :=
    services.items.map fun provided => (provided.definition, provided.isProvided)

instance : Summary (Subscription H) where
  summary subscription := .object
    [("event_type", subscription.eventType), ("notify_uri", subscription.notifyUri),
      ("subscriber", subscription.subscriber), ("metadata", subscription.metadata)]

instance : Summary (Subscriptions H) where
  summary subscriptions :=
    subscriptions.items.map fun subscription => (subscription.eventType, subscription.isSubscribed)

instance : Summary ServiceResponse where
  summary response := .object
    [("status", response.status), ("content_type", response.contentType),
      ("body", Summary.ofBytes response.body)]

/-- What precedes the body of a response.  A content type that is no visible ASCII
is not shown. -/
def Http.Response.headFields (response : Http.Response) : List (String × Json.Value) :=
  let contentType := response.contentType.bind fun text => headerText? (Utf8.encode text)
  let allow := if response.allow.isEmpty then none else some (String.intercalate "," response.allow)
  [("status", response.status), ("content_type", contentType), ("allow", allow)]

end LocalCloud
