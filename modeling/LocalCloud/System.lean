import LocalCloud.Json.Decode

/-!
# Systems

The network identity of a participant of the local cloud.
-/

namespace LocalCloud

/-- A named network endpoint. -/
structure System where
  /-- The name, which is also how the common name of its certificate begins. -/
  name : String
  /-- A host name or address. -/
  address : String
  port : UInt16
  /-- The public key as base64 DER, absent for insecure systems. -/
  authenticationInfo : Option String := none
deriving DecidableEq, Repr, Inhabited

namespace System

/-- The decimal digits of the port. -/
def portText (system : System) : String :=
  toString system.port.toNat

/-- Address and port. -/
def authority (system : System) : String :=
  system.address ++ ":" ++ system.portText

/-- Name, address and port. -/
def toString (system : System) : String :=
  system.name ++ "@" ++ system.authority

/-- The system as a JSON object; absent authentication info is left out. -/
def toJson (system : System) : Json.Value :=
  .object <|
    [("systemName", .string system.name),
      ("address", .string system.address),
      ("port", .ofNat system.port.toNat)]
    ++ Json.Value.field "authenticationInfo" (system.authenticationInfo.map .string)

open Json.Decode in
def decode : Json.Decoder System := fun node => do
  match ← record ["systemName", "address", "port", "authenticationInfo"] node with
  | [name, address, port, info] =>
    some {
      name := ← required string name
      address := ← required string address
      port := UInt16.ofNat (← required nat16 port)
      authenticationInfo := ← optional string info }
  | _ => none

end System

end LocalCloud
