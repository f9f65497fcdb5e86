import LocalCloud.Message.Event
import LocalCloud.Error
import LocalCloud.Text.Case
import LocalCloud.Text.Whitespace

/-!
# Event subscriptions

The events this system wants to be told about, in the order they were declared.
Every subscription has a notify URI of its own, made unique by an identifier, at
which the event handler delivers.  `H` is the type of whatever stands for a
callback.
-/

namespace LocalCloud

variable {H : Type}

/-- A subscription to one type of event. -/
structure Subscription (H : Type) where
  /-- The event type in upper case. -/
  eventType : String
  subscriber : System
  callback : H
  /-- The metadata an event must carry, if it matters. -/
  metadata : Option (Dict String) := none
  /-- The path, without a slash in front, that events are delivered to. -/
  notifyUri : String
  /-- Whether the event handler knows the subscription. -/
  isSubscribed : Bool := false

namespace Subscription

/-- A subscription that is not active yet.  The event type may be in any case;
the identifier makes the notify URI unique. -/
def declare (eventType : String) (subscriber : System) (callback : H)
    (metadata : Option (Dict String)) (identifier : String) : Subscription H :=
  let eventType := Text.upper eventType
  { eventType := eventType
    subscriber := subscriber
    callback := callback
    metadata := metadata
    notifyUri := Text.lower eventType ++ "-" ++ identifier }

/-- The path events are delivered to. -/
def path (subscription : Subscription H) : String :=
  "/" ++ subscription.notifyUri

/-- The failure for an event of another type. -/
def misdelivered (subscription : Subscription H) (event : Event) : String :=
  "event '" ++ event.eventType ++ "' delivered to subscription for '" ++ subscription.eventType
    ++ "'"

/-- Whether an event is of the subscribed type, up to the case of ASCII
letters. -/
def accepts (subscription : Subscription H) (event : Event) : Bool :=
  Text.eqIgnoringAsciiCase event.eventType subscription.eventType

/-- Delivers an event to the callback, which runs only for the subscribed
type. -/
def notify {m : Type → Type} [Monad m] (run : H → Event → m (Except Error Unit))
    (subscription : Subscription H) (event : Event) : m (Except Error Unit) :=
  if subscription.accepts event then run subscription.callback event
  else pure (.error (.validation (subscription.misdelivered event)))

def form (subscription : Subscription H) : SubscriptionForm where
  eventType := subscription.eventType
  notifyUri := subscription.notifyUri
  subscriber := subscription.subscriber
  filter := subscription.metadata
  matchMetadata := subscription.metadata.isSome

def unsubscriptionParams (subscription : Subscription H) : Params :=
  subscription.subscriber.unsubscriptionParams subscription.eventType

end Subscription

/-- The subscriptions in declaration order. -/
structure Subscriptions (H : Type) where
  items : List (Subscription H) := []

namespace Subscriptions

/-- No subscription. -/
def empty : Subscriptions H := {}

instance : Inhabited (Subscriptions H) := ⟨empty⟩

def insert (subscriptions : Subscriptions H) (subscription : Subscription H) : Subscriptions H :=
  ⟨subscriptions.items ++ [subscription]⟩

/-- The subscription that events at a notify URI belong to; slashes in front do
not count. -/
def byNotifyUri? (subscriptions : Subscriptions H) (uri : String) : Option (Subscription H) :=
  let uri := Text.dropLeading '/' uri
  subscriptions.items.find? fun subscription => subscription.notifyUri == uri

/-- The subscriptions to an event type, up to the case of ASCII letters. -/
def byEventType (subscriptions : Subscriptions H) (eventType : String) : List (Subscription H) :=
  subscriptions.items.filter fun subscription =>
    Text.eqIgnoringAsciiCase subscription.eventType eventType

/-- The subscriptions the event handler knows. -/
def subscribed (subscriptions : Subscriptions H) : List (Subscription H) :=
  subscriptions.items.filter (·.isSubscribed)

end Subscriptions

end LocalCloud
