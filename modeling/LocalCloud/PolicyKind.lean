import LocalCloud.Error
import LocalCloud.Json.Decode
import LocalCloud.Text.Case
import LocalCloud.Text.Whitespace

/-!
# Kinds of access policy

How a provided service decides who may call it, as named in the service
registry.
-/

namespace LocalCloud

/-- The authorization a provided service asks for. -/
inductive PolicyKind where
  /-- Anyone may call. -/
  | unrestricted
  /-- Callers present a client certificate. -/
  | certificate
  /-- Callers present an authorization token. -/
  | token
deriving DecidableEq, Repr, Inhabited

namespace PolicyKind

/-- The name used in the service registry. -/
def name : PolicyKind → String
  | unrestricted => "NOT_SECURE"
  | certificate => "CERTIFICATE"
  | token => "TOKEN"

/-- The name shown to people. -/
def title : PolicyKind → String
  | unrestricted => "Unrestricted"
  | certificate => "Certificate"
  | token => "Token"

def security : PolicyKind → String
  | unrestricted => "INSECURE"
  | certificate => "SECURE"
  | token => "SECURE"

/-- Reads a name in any letter case and with white space around it. -/
def ofName (text : String) : Except Error PolicyKind :=
  let name := Text.upper (Text.trim text)
  if name = "UNRESTRICTED" ∨ name = "NOT_SECURE" then .ok unrestricted
  else if name = "CERTIFICATE" then .ok certificate
  else if name = "TOKEN" then .ok token
  else .error (.unknownAccessPolicy name)

def toJson (kind : PolicyKind) : Json.Value := .string kind.name

def decode : Json.Decoder PolicyKind := fun node => do
  (ofName (← Json.Decode.string node)).toOption

end PolicyKind

end LocalCloud
