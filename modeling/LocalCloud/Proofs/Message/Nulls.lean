import LocalCloud.Message.ErrorBody
import LocalCloud.Message.Event
import LocalCloud.Message.Orchestration
import LocalCloud.Proofs.Json.Nulls

/-!
# Nulls from core systems

Core systems send null for many a field that they might leave out.  Wherever they do, at
any depth of an answer, a notification or an error body, what is read is the same as
without the field.
-/

namespace LocalCloud

open Json.Decode
open Json (Place Shape)

def System.shape : Shape :=
  .record ["authenticationInfo"] fun _ => .plain

def RegistryEntry.shape : Shape :=
  .record ["serviceUri", "secure", "metadata", "version", "interfaces"] fun name =>
    if name = "provider" then System.shape else .plain

def QueryResult.shape : Shape :=
  .record ["serviceQueryData"] fun name =>
    if name = "serviceQueryData" then .list RegistryEntry.shape else .plain

def OrchestrationEntry.shape : Shape :=
  .record ["serviceUri", "secure", "metadata", "interfaces", "version", "authorizationTokens",
      "warnings"] fun name =>
    if name = "provider" then System.shape else .plain

def OrchestrationResponse.shape : Shape :=
  .record ["response"] fun name =>
    if name = "response" then .list OrchestrationEntry.shape else .plain

def Event.shape : Shape :=
  .record ["metaData", "payload", "timeStamp"] fun _ => .plain

def ErrorBody.shape : Shape :=
  .record ["errorCode", "exceptionType"] fun _ => .plain

theorem System.readsNullAsMissing : System.shape.ReadsNullAsMissing System.decode := by
  apply Shape.readsNullAsMissing_record
  intro first second h
  simp only [List.map_cons, List.map_nil]
  rw [(h "systemName").required (by decide) .plain,
    (h "address").required (by decide) .plain,
    (h "port").required (by decide) .plain,
    (h "authenticationInfo").optional .plain]

theorem RegistryEntry.readsNullAsMissing :
    RegistryEntry.shape.ReadsNullAsMissing RegistryEntry.decode := by
  apply Shape.readsNullAsMissing_record
  intro first second h
  simp only [List.map_cons, List.map_nil]
  rw [(h "id").defaulted (by decide) .plain,
    (h "serviceDefinition").required (by decide) .plain,
    (h "provider").required (by decide) System.readsNullAsMissing,
    (h "serviceUri").nullDefault .plain,
    (h "secure").optional .plain,
    (h "metadata").optional .plain,
    (h "version").optional .plain,
    (h "interfaces").nullDefault .plain]

theorem QueryResult.readsNullAsMissing :
    QueryResult.shape.ReadsNullAsMissing QueryResult.decode := by
  apply Shape.readsNullAsMissing_record
  intro first second h
  simp only [List.map_cons, List.map_nil]
  rw [(h "serviceQueryData").nullDefault RegistryEntry.readsNullAsMissing.list,
    (h "unfilteredHits").defaulted (by decide) .plain]

theorem OrchestrationEntry.readsNullAsMissing :
    OrchestrationEntry.shape.ReadsNullAsMissing OrchestrationEntry.decode := by
  apply Shape.readsNullAsMissing_record
  intro first second h
  simp only [List.map_cons, List.map_nil]
  rw [(h "provider").required (by decide) System.readsNullAsMissing,
    (h "service").required (by decide) .plain,
    (h "serviceUri").nullDefault .plain,
    (h "secure").optional .plain,
    (h "metadata").optional .plain,
    (h "interfaces").nullDefault .plain,
    (h "version").optional .plain,
    (h "authorizationTokens").optional .plain,
    (h "warnings").nullDefault .plain]

theorem OrchestrationResponse.readsNullAsMissing :
    OrchestrationResponse.shape.ReadsNullAsMissing OrchestrationResponse.decode := by
  apply Shape.readsNullAsMissing_record
  intro first second h
  simp only [List.map_cons, List.map_nil]
  rw [(h "response").nullDefault OrchestrationEntry.readsNullAsMissing.list]

theorem Event.readsNullAsMissing : Event.shape.ReadsNullAsMissing Event.decode := by
  apply Shape.readsNullAsMissing_record
  intro first second h
  simp only [List.map_cons, List.map_nil]
  rw [(h "eventType").required (by decide) .plain,
    (h "metaData").nullDefault .plain,
    (h "payload").nullDefault .plain,
    (h "timeStamp").nullDefault .plain]

theorem ErrorBody.readsNullAsMissing : ErrorBody.shape.ReadsNullAsMissing ErrorBody.decode := by
  apply Shape.readsNullAsMissing_record
  intro first second h
  simp only [List.map_cons, List.map_nil]
  rw [(h "errorMessage").required (by decide) .plain,
    (h "errorCode").optional .plain,
    (h "exceptionType").optional .plain]

/-- Whichever of the fields that core systems send as null are null, the result is the one
that is read without them, whether it is a value or none. -/
theorem Message.readsNullsAsMissing :
    (∀ chosen node, OrchestrationResponse.shape.Admits node →
      OrchestrationResponse.decode (OrchestrationResponse.shape.nulled chosen node) =
        OrchestrationResponse.decode (OrchestrationResponse.shape.without chosen node)) ∧
    (∀ chosen node, QueryResult.shape.Admits node →
      QueryResult.decode (QueryResult.shape.nulled chosen node) =
        QueryResult.decode (QueryResult.shape.without chosen node)) ∧
    (∀ chosen node, Event.shape.Admits node →
      Event.decode (Event.shape.nulled chosen node) =
        Event.decode (Event.shape.without chosen node)) ∧
    ∀ chosen node, ErrorBody.shape.Admits node →
      ErrorBody.decode (ErrorBody.shape.nulled chosen node) =
        ErrorBody.decode (ErrorBody.shape.without chosen node) :=
  ⟨OrchestrationResponse.readsNullAsMissing, QueryResult.readsNullAsMissing,
    Event.readsNullAsMissing, ErrorBody.readsNullAsMissing⟩

/-- An answer with two providers of a service. -/
def twoProviders : Json.Value :=
  let entry (info uri : String) : Json.Value := .object
    [("provider", .object
      [("systemName", .string "provider"), ("address", .string "10.0.0.2"), ("port", .ofNat 8000),
        ("authenticationInfo", .string info)]),
      ("service", .object [("serviceDefinition", .string "echo")]), ("serviceUri", .string uri),
      ("warnings", .array [.string "TTL_EXPIRED"])]
  .object [("response", .array [entry "first" "one", entry "second" "two"])]

/-- The key of the first provider is null, and the URI and the warnings of the second
entry. -/
theorem Message.readsNullsAsMissing_twoProviders :
    let chosen (place : Place) : Bool := decide (place ∈ [
      [.field "response", .item 0, .field "provider", .field "authenticationInfo"],
      [.field "response", .item 1, .field "serviceUri"],
      [.field "response", .item 1, .field "warnings"]])
    OrchestrationResponse.shape.Admits twoProviders.toNode ∧
      ∃ response, OrchestrationResponse.decode
          (OrchestrationResponse.shape.without chosen twoProviders.toNode) = some response ∧
        OrchestrationResponse.decode
          (OrchestrationResponse.shape.nulled chosen twoProviders.toNode) = some response ∧
        response.entries.map (·.provider.authenticationInfo) = [none, some "second"] ∧
        response.entries.map (·.uri) = ["one", ""] ∧
        response.entries.map (·.warnings) = [["TTL_EXPIRED"], []] := by
  intro chosen
  obtain ⟨hresponse, -⟩ := readsNullsAsMissing
  have hadmits : OrchestrationResponse.shape.Admits twoProviders.toNode := by
    simp [twoProviders, Json.Value.toNode, Json.Value.toFields, Json.Value.toNodes,
      OrchestrationResponse.shape, OrchestrationEntry.shape, System.shape, Shape.Admits]
  refine ⟨hadmits, _, rfl, ?_, ?_⟩
  · rw [hresponse chosen _ hadmits]
    rfl
  · decide +kernel

end LocalCloud
