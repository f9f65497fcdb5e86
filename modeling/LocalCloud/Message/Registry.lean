import LocalCloud.Codec.Percent
import LocalCloud.Service
import LocalCloud.System

/-!
# Messages of the service registry

What a provider sends to register and unregister a service, what a consumer asks
for, and the entries it gets back.
-/

namespace LocalCloud

/-- The request to register a service. -/
structure RegistrationForm where
  definition : String
  uri : String
  interfaces : List String
  provider : System
  security : String
  metadata : Dict String
  version : Option Int64
  endOfValidity : Option String := none
deriving DecidableEq

namespace RegistrationForm

def ofService (service : Service) (provider : System) : RegistrationForm where
  definition := service.definition
  uri := service.uri
  interfaces := [service.interface.toString]
  provider := provider
  security := service.policy.name
  metadata := service.metadata
  version := service.version

def toJson (form : RegistrationForm) : Json.Value :=
  .object <|
    [("serviceDefinition", .string form.definition),
      ("serviceUri", .string form.uri),
      ("interfaces", .ofStrings form.interfaces),
      ("providerSystem", form.provider.toJson),
      ("secure", .string form.security)]
    ++ Json.Value.textsField "metadata" form.metadata
    ++ Json.Value.field "version" (form.version.map fun n => .ofInt n.toInt)
    ++ Json.Value.field "endOfValidity" (form.endOfValidity.map .string)

end RegistrationForm

def System.params (system : System) : Params :=
  [("system_name", system.name), ("address", system.address), ("port", system.portText)]

def Service.unregistrationParams (service : Service) (provider : System) : Params :=
  ("service_definition", service.definition) :: provider.params

/-- What a wanted service must satisfy. -/
structure QueryForm where
  definition : String
  interfaces : List String := []
  security : List String := []
  metadata : Dict String := ∅
  version : Option Int64 := none
  maxVersion : Option Int64 := none
  minVersion : Option Int64 := none
  pingProviders : Bool := false
deriving DecidableEq

/-- The requirements as a JSON object. -/
def QueryForm.toJson (form : QueryForm) : Json.Value :=
  .object <|
    ("serviceDefinitionRequirement", .string form.definition)
    :: Json.Value.listField "interfaceRequirements" (form.interfaces.map .string)
    ++ Json.Value.listField "securityRequirements" (form.security.map .string)
    ++ Json.Value.textsField "metadataRequirements" form.metadata
    ++ Json.Value.field "versionRequirement" (form.version.map fun n => .ofInt n.toInt)
    ++ Json.Value.field "maxVersionRequirement" (form.maxVersion.map fun n => .ofInt n.toInt)
    ++ Json.Value.field "minVersionRequirement" (form.minVersion.map fun n => .ofInt n.toInt)
    ++ [("pingProviders", .bool form.pingProviders)]

/-- A service definition with its number in the registry. -/
structure DefinitionEntry where
  id : Int64 := 0
  definition : String
deriving DecidableEq

/-- An interface name with its number in the registry. -/
structure InterfaceEntry where
  id : Int64 := 0
  name : String
deriving DecidableEq

/-- One entry of the service registry. -/
structure RegistryEntry where
  id : Int64
  definition : DefinitionEntry
  provider : System
  uri : String
  security : Option String
  metadata : Option (Dict String)
  version : Option Int64
  interfaces : List InterfaceEntry
deriving DecidableEq

/-- The entries that answer a query. -/
structure QueryResult where
  entries : List RegistryEntry
  unfilteredHits : Int64
deriving DecidableEq

namespace Json.Decode

/-- A signed 64-bit word. -/
def word64 : Decoder Int64 := fun node =>
  (int64 node).map Int64.ofInt

end Json.Decode

open Json.Decode

def DefinitionEntry.decode : Json.Decoder DefinitionEntry := fun node => do
  match ← record ["id", "serviceDefinition"] node with
  | [id, definition] =>
    some { id := ← defaulted 0 word64 id, definition := ← required string definition }
  | _ => none

def InterfaceEntry.decode : Json.Decoder InterfaceEntry := fun node => do
  match ← record ["id", "interfaceName"] node with
  | [id, name] => some { id := ← defaulted 0 word64 id, name := ← required string name }
  | _ => none

def RegistryEntry.decode : Json.Decoder RegistryEntry := fun node => do
  match ← record ["id", "serviceDefinition", "provider", "serviceUri", "secure", "metadata",
      "version", "interfaces"] node with
  | [id, definition, provider, uri, security, metadata, version, interfaces] =>
    some {
      id := ← defaulted 0 word64 id
      definition := ← required DefinitionEntry.decode definition
      provider := ← required System.decode provider
      uri := ← nullDefault "" string uri
      security := ← optional string security
      metadata := ← optional (dict string) metadata
      version := ← optional word64 version
      interfaces := ← nullDefault [] (list InterfaceEntry.decode) interfaces }
  | _ => none

def QueryResult.decode : Json.Decoder QueryResult := fun node => do
  match ← record ["serviceQueryData", "unfilteredHits"] node with
  | [entries, unfilteredHits] =>
    some {
      entries := ← nullDefault [] (list RegistryEntry.decode) entries
      unfilteredHits := ← defaulted 0 word64 unfilteredHits }
  | _ => none

end LocalCloud
