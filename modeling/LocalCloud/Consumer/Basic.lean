import LocalCloud.Json.Decode
import LocalCloud.Json.Printer
import LocalCloud.Orchestration.Rule

/-!
# Calls and replies

What a consumer sends through an orchestration rule and what comes back, whatever
the protocol.
-/

namespace LocalCloud

/-- The content of a call. -/
structure ConsumeRequest where
  /-- The body, if the call has one. -/
  json : Option Json.Value := none
  query : Params := []
  headers : List (String × String) := []

namespace ConsumeRequest

/-- A call without content. -/
def empty : ConsumeRequest := {}

def ofJson (body : Json.Value) : ConsumeRequest := { json := some body }

def ofParams (params : Params) : ConsumeRequest := { query := params }

end ConsumeRequest

/-- The reply to a call. -/
structure Reply where
  status : UInt16
  payloadType : String
  payload : Bytes
deriving DecidableEq

namespace Reply

/-- Whether the status tells of success. -/
def isSuccess (reply : Reply) : Bool :=
  200 ≤ reply.status && reply.status < 300

/-- The payload as text, with U+FFFD for what is ill-formed. -/
def text (reply : Reply) : String :=
  Utf8.decodeLossy reply.payload

def json {α : Type} (reply : Reply) (decode : Json.Decoder α) : Except Error α :=
  Error.ofOption Error.unreadableJson (Json.decodeBytes? decode reply.payload)

/-- Reads the payload as any JSON value. -/
def value (reply : Reply) : Except Error Json.Value :=
  Error.ofOption Error.unreadableJson (Json.Value.ofBytes? reply.payload)

end Reply

end LocalCloud
