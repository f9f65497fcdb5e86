import LocalCloud.Http.Message
import LocalCloud.Provider.ProvidedService
import LocalCloud.Provider.Subscription

/-!
# Wiring

Which paths and methods a provider serves.  A path belongs either to services,
one for each method, or to one event subscription.  What is taken is recorded
beside the services and subscriptions, and a claim to something that is taken
is refused.
-/

namespace LocalCloud

variable {H E : Type}

/-- What can be wired: a service, or a subscription for its events. -/
inductive Offer (H E : Type) where
  | service (provided : ProvidedService H)
  | event (subscription : Subscription E)

/-- The services and subscriptions a provider serves, in the order they were
wired. -/
structure Provider (H E : Type) where
  /-- The header, in lower case, in which a trusted proxy forwards the caller's
  certificate. -/
  proxyHeader : Option String := none
  services : List (ProvidedService H) := []
  events : List (Subscription E) := []
  /-- The paths and methods that services have claimed. -/
  routes : List (String × String) := []
  /-- The paths that subscriptions have claimed. -/
  eventPaths : List String := []

/-- A change of a provider that may fail; what it did before it failed stays
done. -/
abbrev Wiring (H E : Type) := ExceptT Error (StateM (Provider H E))

namespace Provider

/-- A provider without routes that trusts a header, given in any case. -/
def trusting (header : Option String) : Provider H E where
  proxyHeader := header.map Text.asciiLower

/-- The methods a service may be served with. -/
def methods : List String :=
  ["GET", "HEAD", "DELETE", "OPTIONS", "PATCH", "POST", "PUT", "TRACE", "CONNECT"]

def claimRoute (path method : String) : Wiring H E Unit := do
  let provider ← get
  if path ∈ provider.eventPaths then
    throw (.validation ("path " ++ path ++ " is an event notify URI"))
  if (path, method) ∈ provider.routes then
    throw (.validation ("route " ++ method ++ " " ++ path ++ " is already taken"))
  set { provider with routes := provider.routes ++ [(path, method)] }

def claimEventPath (path : String) : Wiring H E Unit := do
  let provider ← get
  if path ∈ provider.routes.map (·.1) then
    throw (.validation ("path " ++ path ++ " is already a service URI"))
  if path ∈ provider.eventPaths then
    throw (.validation ("notify URI " ++ path ++ " is already taken"))
  set { provider with eventPaths := provider.eventPaths ++ [path] }

def wireService (service : ProvidedService H) : Wiring H E Unit := do
  if service.method ∉ methods then
    throw (.validation ("unsupported HTTP method '" ++ service.method ++ "'"))
  claimRoute service.path service.method
  modify fun provider => { provider with services := provider.services ++ [service] }

def wireEvent (subscription : Subscription E) : Wiring H E Unit := do
  claimEventPath subscription.path
  modify fun provider => { provider with events := provider.events ++ [subscription] }

def wire : Offer H E → Wiring H E Unit
  | .service service => wireService service
  | .event subscription => wireEvent subscription

/-- The provider that a successful change leaves. -/
def changed (provider : Provider H E) (change : Wiring H E Unit) : Except Error (Provider H E) :=
  match change.run provider with
  | (.ok (), after) => .ok after
  | (.error failure, _) => .error failure

def addService (provider : Provider H E) (service : ProvidedService H) :
    Except Error (Provider H E) :=
  provider.changed (wire (.service service))

def addEvent (provider : Provider H E) (subscription : Subscription E) :
    Except Error (Provider H E) :=
  provider.changed (wire (.event subscription))

/-- Wires services and then subscriptions, up to the first that is refused. -/
def addAll (provider : Provider H E) (services : List (ProvidedService H))
    (events : List (Subscription E)) : Except Error (Provider H E) := do
  let provider ← services.foldlM addService provider
  events.foldlM addEvent provider

end Provider

end LocalCloud
