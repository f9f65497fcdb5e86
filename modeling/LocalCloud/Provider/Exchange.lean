import LocalCloud.Error
import LocalCloud.Json.Decode
import LocalCloud.Json.Printer

/-!
# What a handler receives and returns

The request that reaches the handler of a provided service, and the response it
makes.
-/

namespace LocalCloud

/-- A request as a handler sees it. -/
structure ServiceRequest where
  method : String
  /-- The path without the query. -/
  path : String
  /-- The parameters of the query; the last value of a name counts. -/
  query : Dict String := ∅
  /-- The headers by lower-case name; the last value of a name counts. -/
  headers : Dict String := ∅
  body : Bytes := []
deriving DecidableEq

namespace ServiceRequest

/-- The body as text, with U+FFFD for what is ill-formed. -/
def text (request : ServiceRequest) : String :=
  Utf8.decodeLossy request.body

def json {α : Type} (request : ServiceRequest) (decode : Json.Decoder α) : Except Error α :=
  Error.ofOption Error.unreadableJson (Json.decodeBytes? decode request.body)

end ServiceRequest

/-- The response of a handler. -/
structure ServiceResponse where
  status : UInt16 := 200
  contentType : String
  body : Bytes
deriving DecidableEq

namespace ServiceResponse

def ofJson (value : Json.Value) : ServiceResponse where
  contentType := "application/json"
  body := value.bytes

def ofText (text : String) : ServiceResponse where
  contentType := "text/plain; charset=utf-8"
  body := Utf8.encode text

/-- The same response with another status. -/
def withStatus (response : ServiceResponse) (status : UInt16) : ServiceResponse :=
  { response with status := status }

end ServiceResponse

end LocalCloud
