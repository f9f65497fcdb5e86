import LocalCloud.Message.Registry

/-!
# Messages of the event handler

What is sent to publish an event and to subscribe to a type of event, and the
notification that a subscriber receives.
-/

namespace LocalCloud

/-- An event on its way to the event handler. -/
structure PublishForm where
  eventType : String
  metadata : Dict String
  payload : String
  source : System
  timeStamp : String
deriving DecidableEq

def PublishForm.toJson (form : PublishForm) : Json.Value :=
  .object
    [("eventType", .string form.eventType),
      ("metaData", .ofTexts form.metadata),
      ("payload", .string form.payload),
      ("source", form.source.toJson),
      ("timeStamp", .string form.timeStamp)]

/-- The request to subscribe to an event type. -/
structure SubscriptionForm where
  eventType : String
  notifyUri : String
  subscriber : System
  filter : Option (Dict String) := none
  matchMetadata : Bool := false
  sources : List System := []
  startDate : Option String := none
  endDate : Option String := none
deriving DecidableEq

/-- The request as a JSON object. -/
def SubscriptionForm.toJson (form : SubscriptionForm) : Json.Value :=
  .object <|
    [("eventType", .string form.eventType),
      ("notifyUri", .string form.notifyUri),
      ("subscriberSystem", form.subscriber.toJson)]
    ++ Json.Value.field "filterMetaData" (form.filter.map .ofTexts)
    ++ [("matchMetaData", .bool form.matchMetadata)]
    ++ Json.Value.listField "sources" (form.sources.map System.toJson)
    ++ Json.Value.field "startDate" (form.startDate.map .string)
    ++ Json.Value.field "endDate" (form.endDate.map .string)

def System.unsubscriptionParams (subscriber : System) (eventType : String) : Params :=
  ("event_type", eventType) :: subscriber.params

/-- An event as it reaches a subscriber. -/
structure Event where
  eventType : String
  metadata : Dict String := ∅
  payload : String := ""
  timeStamp : String := ""
deriving DecidableEq

namespace Event

def toJson (event : Event) : Json.Value :=
  .object
    [("eventType", .string event.eventType),
      ("metaData", .ofTexts event.metadata),
      ("payload", .string event.payload),
      ("timeStamp", .string event.timeStamp)]

open Json.Decode in
def decode : Json.Decoder Event := fun node => do
  match ← record ["eventType", "metaData", "payload", "timeStamp"] node with
  | [eventType, metadata, payload, timeStamp] =>
    some {
      eventType := ← required string eventType
      metadata := ← nullDefault ∅ (dict string) metadata
      payload := ← nullDefault "" string payload
      timeStamp := ← nullDefault "" string timeStamp }
  | _ => none

end Event

end LocalCloud
