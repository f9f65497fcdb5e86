import LocalCloud.Client.Operations

/-!
# Running a client

The order of a client's life: fetch the key if tokens will have to be checked,
wire the provider, register, subscribe, serve, and take everything back.
-/

namespace LocalCloud.Client

variable {C H E : Type} {m : Type → Type} [Monad m]

/-- Fetches the key of the authorization system when some service needs it and it
is not known.  Without it tokens are refused, which is no reason not to run. -/
def bootstrapKey (network : Network m C) (client : Client C H E) : m (Client C H E) := do
  if client.services.needsKey && client.authorizationKey.isNone then
    return (← client.fetchKey network).2
  else return client

/-- The failure that names every service that could not be registered. -/
def registrationFailed (report : Report) : Error :=
  .registration <| String.intercalate ", " <|
    report.failed.map fun failed => failed.1 ++ " (" ++ failed.2 ++ ")"

/-- Takes back subscriptions and registrations. -/
def tearDown (network : Network m C) (client : Client C H E) : m (Client C H E) := do
  let (_, client) ← client.unsubscribeAll network
  let (_, client) ← client.unregisterAll network
  return client

/-- Registers, subscribes, serves and takes everything back. -/
def runWired (network : Network m C) (serve : Client C H E → Provider H E → m (Except Error Unit))
    (client : Client C H E) (provider : Provider H E) : m (Except Error Unit × Client C H E) := do
  let (report, client) ← client.registerAll network
  if !report.isClean && client.config.failOnRegistrationError then
    let (_, client) ← client.unregisterAll network
    return (.error (registrationFailed report), client)
  let (_, client) ← client.subscribeAll network
  let served ← serve client provider
  let client ← client.tearDown network
  return (served, client)

/-- Runs a client until serving ends. -/
def run (network : Network m C) (serve : Client C H E → Provider H E → m (Except Error Unit))
    (client : Client C H E) : m (Except Error Unit × Client C H E) := do
  let client ← client.bootstrapKey network
  match client.provider with
  | .error failure => return (.error failure, client)
  | .ok provider => client.runWired network serve provider

end LocalCloud.Client
