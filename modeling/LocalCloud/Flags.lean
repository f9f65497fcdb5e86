import LocalCloud.Error
import LocalCloud.Json.Decode
import LocalCloud.Text.Identifier

/-!
# Orchestration flags

Switches sent with a request to the orchestrator.  They are kept under their
snake_case names and written in camelCase on the wire.
-/

namespace LocalCloud

/-- Flag settings by name. -/
structure Flags where
  settings : Dict Bool := ∅
deriving DecidableEq

namespace Flags

/-- No flag set. -/
def empty : Flags := {}

instance : Inhabited Flags := ⟨empty⟩

/-- The flags the orchestrator understands. -/
def known : List String :=
  ["matchmaking", "metadata_search", "only_preferred", "ping_providers", "override_store",
    "enable_inter_cloud", "trigger_inter_cloud"]

/-- Sets a flag given in either spelling. -/
def set (flags : Flags) (name : String) (value : Bool) : Except Error Flags :=
  let name := Text.toSnakeCase name
  if name ∈ known then .ok ⟨flags.settings.insert name value⟩
  else .error (.validation ("unknown orchestration flag '" ++ name ++ "'"))

def setAll (flags : Flags) (settings : List (String × Bool)) : Except Error Flags :=
  settings.foldlM (fun flags setting => flags.set setting.1 setting.2) flags

/-- The value of a flag given in either spelling; unset flags are off. -/
def get (flags : Flags) (name : String) : Bool :=
  (flags.settings.get? (Text.toSnakeCase name)).getD false

def merge (flags newer : Flags) : Flags :=
  ⟨flags.settings.merge newer.settings⟩

/-- The settings under their camelCase names. -/
def wireSettings (flags : Flags) : Dict Bool :=
  flags.settings.mapKeys Text.toCamelCase

/-- The object sent to the orchestrator. -/
def toWire (flags : Flags) : Dict Json.Value :=
  flags.wireSettings.mapValues .bool

/-- The failure for a flag whose value is no Boolean. -/
def notBoolean (name : String) : Error :=
  .validation ("orchestration flag '" ++ name ++ "' is not a boolean")

def setWire (flags : Flags) (setting : String × Json.Value) : Except Error Flags :=
  match setting.2 with
  | .bool value => flags.set setting.1 value
  | _ => .error (notBoolean setting.1)

def ofWire (wire : Dict Json.Value) : Except Error Flags :=
  (wire.mapKeys Text.toSnakeCase).entries.foldlM setWire empty

/-- Reads flags from a JSON object under the names it uses. -/
def decode : Json.Decoder Flags := fun node => do
  some ⟨← Json.Decode.dict Json.Decode.bool node⟩

end Flags

end LocalCloud
