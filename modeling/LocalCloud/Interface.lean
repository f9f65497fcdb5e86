import LocalCloud.PolicyKind
import LocalCloud.Text.Ascii
import LocalCloud.Text.Split

/-!
# Interfaces

The triple `PROTOCOL-SECURITY-PAYLOAD` that tells how a service is reached, for
instance `HTTP-SECURE-JSON`.  The parts are kept in upper case, so interfaces
are compared without regard to the case they were written in.
-/

namespace LocalCloud

/-- How a service is reached. -/
structure Interface where
  protocol : String
  security : String
  payload : String
deriving DecidableEq, Repr, Inhabited

namespace Interface

def ofParts (protocol security payload : String) : Interface :=
  ⟨Text.upper protocol, Text.upper security, Text.upper payload⟩

/-- The interface whose security part follows from an access policy. -/
def ofPolicy (protocol : String) (policy : PolicyKind) (payload : String) : Interface :=
  ofParts protocol policy.security payload

/-- Whether the interface is served over TLS. -/
def isSecure (interface : Interface) : Bool :=
  interface.security == "SECURE"

def toString (interface : Interface) : String :=
  interface.protocol ++ "-" ++ interface.security ++ "-" ++ interface.payload

/-- The failure for a text that is no interface. -/
def malformed (text : String) : Error :=
  .validation ("interface '" ++ text ++ "' is not of the form PROTOCOL-SECURITY-PAYLOAD")

/-- Reads an interface: exactly three parts, none of them empty. -/
def ofString (text : String) : Except Error Interface :=
  match Text.splitOn '-' text.toList with
  | [protocol, security, payload] =>
    if protocol.isEmpty || security.isEmpty || payload.isEmpty then .error (malformed text)
    else .ok (ofParts (String.ofList protocol) (String.ofList security) (String.ofList payload))
  | _ => .error (malformed text)

/-- Whether a text spells the interface, up to the case of ASCII letters. -/
def spelledBy (interface : Interface) (text : String) : Bool :=
  Text.eqIgnoringAsciiCase interface.toString text

/-- The interface as JSON: its written form. -/
def toJson (interface : Interface) : Json.Value := .string interface.toString

def decode : Json.Decoder Interface := fun node => do
  (ofString (← Json.Decode.string node)).toOption

end Interface

end LocalCloud
