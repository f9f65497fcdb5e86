import LocalCloud.Json.Decode
import LocalCloud.Json.Printer

/-!
# Error bodies

The body of an answer that reports a failure.
-/

namespace LocalCloud

/-- A reason, and what the sender knows beside it. -/
structure ErrorBody where
  reason : String
  code : Option UInt16 := none
  exceptionType : Option String := none
deriving DecidableEq, Repr

namespace ErrorBody

def toJson (body : ErrorBody) : Json.Value :=
  .object <|
    ("errorMessage", .string body.reason)
    :: Json.Value.field "errorCode" (body.code.map fun code => .ofNat code.toNat)
    ++ Json.Value.field "exceptionType" (body.exceptionType.map .string)

open Json.Decode in
def decode : Json.Decoder ErrorBody := fun node => do
  match ← record ["errorMessage", "errorCode", "exceptionType"] node with
  | [reason, code, exceptionType] =>
    some {
      reason := ← required string reason
      code := (← optional nat16 code).map UInt16.ofNat
      exceptionType := ← optional string exceptionType }
  | _ => none

end ErrorBody

end LocalCloud
