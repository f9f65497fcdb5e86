import LocalCloud.Client.Basic

/-!
# What a client does

Orchestration, consumption, queries, events, keys and the bulk operations.  Each
one talks to the outside world through a `Network` and gives back the client as
it is afterwards, where it may have changed.
-/

namespace LocalCloud.Client

variable {C H E : Type} {m : Type → Type} [Monad m]

def call (network : Network m C) (client : Client C H E) (rule : OrchestrationRule)
    (request : ConsumeRequest) : m (Except Error Reply) :=
  match client.consumers.get rule.protocol with
  | .error failure => pure (.error failure)
  | .ok consumer => network.consume consumer rule request

def callCore (network : Network m C) (client : Client C H E) (service : CoreService)
    (request : ConsumeRequest) : m (Except Error Reply) := do
  match ← client.call network (service.rule client.config) request with
  | .error failure => return .error failure
  | .ok reply => return (service.checkStatus reply).map fun () => reply

/-- Calls a core service whose reply does not matter beyond its status. -/
def notifyCore (network : Network m C) (client : Client C H E) (service : CoreService)
    (request : ConsumeRequest) : m (Except Error Unit) := do
  return (← client.callCore network service request).map fun _ => ()

/-- Asks the orchestrator for providers of a definition and puts its answer in the
place of the rules for that definition.  Entries that make no rule are left out.
Returns the number of rules. -/
def orchestrate (network : Network m C) (client : Client C H E) (definition method : String)
    (request : OrchestrationRequest) : m (Except Error Nat × Client C H E) := do
  let form := request.form client.system client.config.flags definition
  let reply ← client.callCore network .orchestration (.ofJson form.toJson.canonical)
  match reply.bind (·.json OrchestrationResponse.decode) with
  | .error failure => return (.error failure, client)
  | .ok response =>
    let rules := OrchestrationRule.ofEntries response.entries method
    return (.ok rules.length, { client with rules := client.rules.replace definition rules })

/-- Consumes a service: the call goes to the first provider that answers. -/
def consume (network : Network m C) (client : Client C H E) (definition : String)
    (request : ConsumeRequest) : m (Except Error Reply × Client C H E) := do
  let (reply, rules) ← client.rules.resolve definition fun rule => client.call network rule request
  return (reply, { client with rules := rules })

/-- Asks the service registry for entries. -/
def query (network : Network m C) (client : Client C H E) (form : QueryForm) :
    m (Except Error QueryResult) := do
  let reply ← client.callCore network .query (.ofJson form.toJson.canonical)
  return reply.bind (·.json QueryResult.decode)

def publishForm (client : Client C H E) (eventType payload : String) (metadata : Dict String)
    (timeStamp : String) : PublishForm where
  eventType := Text.upper eventType
  metadata := metadata
  payload := payload
  source := client.system
  timeStamp := timeStamp

/-- Publishes an event; its type may be in any case. -/
def publish (network : Network m C) (client : Client C H E) (eventType payload : String)
    (metadata : Dict String) (timeStamp : String) : m (Except Error Unit) :=
  let form := client.publishForm eventType payload metadata timeStamp
  client.notifyCore network .publish (.ofJson form.toJson.canonical)

/-- Fetches the public key of the authorization system and keeps it. -/
def fetchKey (network : Network m C) (client : Client C H E) :
    m (Except Error String × Client C H E) := do
  let reply ← client.callCore network .publicKey .empty
  match reply.bind fun reply => Certificate.publicKeyPem reply.text with
  | .error failure => return (.error failure, client)
  | .ok pem => return (.ok pem, { client with authorizationKey := some pem })

def register (network : Network m C) (client : Client C H E) (provided : ProvidedService H) :
    m (Except Error Unit) :=
  client.notifyCore network .register (.ofJson provided.registrationForm.toJson.canonical)

def unregister (network : Network m C) (client : Client C H E) (provided : ProvidedService H) :
    m (Except Error Unit) :=
  client.notifyCore network .unregister (.ofParams provided.unregistrationParams)

def subscribe (network : Network m C) (client : Client C H E) (subscription : Subscription E) :
    m (Except Error Unit) :=
  client.notifyCore network .subscribe (.ofJson subscription.form.toJson.canonical)

def unsubscribe (network : Network m C) (client : Client C H E) (subscription : Subscription E) :
    m (Except Error Unit) :=
  client.notifyCore network .unsubscribe (.ofParams subscription.unsubscriptionParams)

def changeServices (client : Client C H E) (change : Change (ProvidedService H))
    (call : ProvidedService H → m (Except Error Unit)) : m (Report × Client C H E) := do
  let (services, report) ← change.run call client.services.items
  return (report, { client with services := ⟨services⟩ })

def changeEvents (client : Client C H E) (change : Change (Subscription E))
    (call : Subscription E → m (Except Error Unit)) : m (Report × Client C H E) := do
  let (events, report) ← change.run call client.events.items
  return (report, { client with events := ⟨events⟩ })

/-- Registers every service that is not registered. -/
def registerAll (network : Network m C) (client : Client C H E) : m (Report × Client C H E) :=
  client.changeServices .registered (client.register network)

/-- Unregisters every service that is registered. -/
def unregisterAll (network : Network m C) (client : Client C H E) : m (Report × Client C H E) :=
  client.changeServices .unregistered (client.unregister network)

/-- Makes every subscription that is not made. -/
def subscribeAll (network : Network m C) (client : Client C H E) : m (Report × Client C H E) :=
  client.changeEvents .activated (client.subscribe network)

/-- Ends every subscription that is made. -/
def unsubscribeAll (network : Network m C) (client : Client C H E) : m (Report × Client C H E) :=
  client.changeEvents .ended (client.unsubscribe network)

end LocalCloud.Client
