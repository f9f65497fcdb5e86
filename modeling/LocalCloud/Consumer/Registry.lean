import LocalCloud.Consumer.HttpCall
import LocalCloud.Consumer.WebSocketCall

/-!
# Consumers by protocol

Which consumer makes the calls of a protocol.  `C` is the type of whatever stands
for a consumer that is not built in.
-/

namespace LocalCloud

/-- A consumer. -/
inductive Consumer (C : Type) where
  | http
  | webSocket
  | custom (consumer : C)
deriving DecidableEq

/-- How the outside world answers the calls of consumers. -/
structure Network (m : Type → Type) (C : Type) where
  http : HttpCall → m HttpCall.Outcome
  webSocket : WebSocketCall → m WebSocketCall.Outcome
  custom : C → OrchestrationRule → ConsumeRequest → m (Except Error Reply)

def Network.consume {m : Type → Type} [Monad m] {C : Type} (network : Network m C)
    (consumer : Consumer C) (rule : OrchestrationRule) (request : ConsumeRequest) :
    m (Except Error Reply) :=
  match consumer with
  | .http => HttpCall.run network.http rule request
  | .webSocket => WebSocketCall.run network.webSocket rule request
  | .custom consumer => network.custom consumer rule request

/-- Consumers by the upper-case name of their protocol. -/
structure Consumers (C : Type) where
  byProtocol : Dict (Consumer C) := ∅

namespace Consumers

variable {C : Type}

def builtIn : Consumers C :=
  ⟨Dict.ofList [("HTTP", .http), ("WS", .webSocket)]⟩

/-- Registers a consumer for a protocol named in any case, in the place of the
one before. -/
def insert (consumers : Consumers C) (protocol : String) (consumer : Consumer C) : Consumers C :=
  ⟨consumers.byProtocol.insert (Text.upper protocol) consumer⟩

/-- The consumer for a protocol named in any case. -/
def get (consumers : Consumers C) (protocol : String) : Except Error (Consumer C) :=
  Error.ofOption (.unknownProtocol protocol) (consumers.byProtocol.get? (Text.upper protocol))

theorem get_insert_self {consumers : Consumers C} {consumer : Consumer C} {protocol name : String}
    (h : Text.upper name = Text.upper protocol) :
    (consumers.insert protocol consumer).get name = .ok consumer := by
  simp [get, insert, h, Error.ofOption]

/-- The names of the protocols in order. -/
def protocols (consumers : Consumers C) : List String :=
  consumers.byProtocol.keys

end Consumers

end LocalCloud
