import LocalCloud.Error
import LocalCloud.Message.Registry

/-!
# Claims

What an authorization token states: who may call which service over which
interface, in which period, and who says so.
-/

namespace LocalCloud

/-- The claims of an authorization token; times are in seconds since 1970. -/
structure Claims where
  tokenId : String := ""
  issuer : String
  issuedAt : Int64
  notBefore : Int64
  /-- The last second of validity; tokens without one never expire. -/
  expiry : Option Int64 := none
  consumer : String
  service : String
  interface : String
deriving DecidableEq

namespace Claims

/-- The issuer of every accepted token. -/
def authorizationIssuer : String := "Authorization"

def toJson (claims : Claims) : Json.Value :=
  .object <|
    [("jti", .string claims.tokenId),
      ("iss", .string claims.issuer),
      ("iat", .ofInt claims.issuedAt.toInt),
      ("nbf", .ofInt claims.notBefore.toInt)]
    ++ Json.Value.field "exp" (claims.expiry.map fun n => .ofInt n.toInt)
    ++ [("cid", .string claims.consumer),
      ("sid", .string claims.service),
      ("iid", .string claims.interface)]

open Json.Decode in
def decode : Json.Decoder Claims := fun node => do
  match ← record ["jti", "iss", "iat", "nbf", "exp", "cid", "sid", "iid"] node with
  | [tokenId, issuer, issuedAt, notBefore, expiry, consumer, service, interface] =>
    some {
      tokenId := ← defaulted "" string tokenId
      issuer := ← required string issuer
      issuedAt := ← required word64 issuedAt
      notBefore := ← required word64 notBefore
      expiry := ← optional word64 expiry
      consumer := ← required string consumer
      service := ← required string service
      interface := ← required string interface }
  | _ => none

/-- Checks the period of validity against a clock and the issuer. -/
def validate (claims : Claims) (now : Int64) : Except Error Unit :=
  if now < claims.issuedAt then .error (.invalidToken "token issued in the future")
  else if now < claims.notBefore then .error (.invalidToken "token not yet valid")
  else if claims.expiry.any (· < now) then .error (.invalidToken "token expired")
  else if claims.issuer ≠ authorizationIssuer then
    .error (.invalidToken ("unexpected issuer '" ++ claims.issuer ++ "'"))
  else .ok ()

end Claims

end LocalCloud
