import LocalCloud.Proofs.Client.BulkOperations
import LocalCloud.Proofs.Client.Building
import LocalCloud.Proofs.Client.EventHandlerMirror
import LocalCloud.Proofs.Client.RegistryMirror
import LocalCloud.Proofs.Orchestration.Failover

/-!
# What a client can be asked for

The operations of a client in one type, so that histories of them can be spoken of:
requests to a core service, bulk operations, and whatever concerns the rules that
were found for its user.  A client is reachable when it was built and has performed
operations since, in any world.

A request to a core service is one call, and what becomes of the answer does not
depend on the world.
-/

namespace LocalCloud

variable {C H E σ ω : Type}

/-- A request to a core service. -/
inductive CoreOperation where
  | orchestrate (definition method : String) (request : OrchestrationRequest)
  | query (form : QueryForm)
  | publish (eventType payload : String) (metadata : Dict String) (timeStamp : String)
  | fetchKey
  | call (service : CoreService) (request : ConsumeRequest)

/-- What concerns the rules of a client's user.  Any rule can be deactivated that
was ever handed out, also one that has been replaced since. -/
inductive RuleOperation where
  | consume (definition : String) (request : ConsumeRequest)
  | insert (rule : OrchestrationRule)
  | replace (definition : String) (rules : List OrchestrationRule)
  | remove (definition : String)
  | deactivate (stored : StoredRule)

inductive Operation where
  | core (operation : CoreOperation)
  | services (operation : ServiceOperation)
  | events (operation : EventOperation)
  | rules (operation : RuleOperation)

/-- What an operation returns. -/
inductive Returned where
  | count (result : Except Error Nat)
  | entries (result : Except Error QueryResult)
  | done (result : Except Error Unit)
  | key (result : Except Error String)
  | reply (result : Except Error Reply)
  | report (report : Report)
  | nothing

namespace Client

/-- What becomes of the answer of the orchestrator. -/
def keepRules (client : Client C H E) (definition method : String)
    (answer : Except Error Reply) : Except Error Nat × Client C H E :=
  match (CoreService.orchestration.accept answer).bind
      (·.json OrchestrationResponse.decode) with
  | .error failure => (.error failure, client)
  | .ok response =>
    let rules := OrchestrationRule.ofEntries response.entries method
    (.ok rules.length, { client with rules := client.rules.replace definition rules })

end Client

namespace CoreOperation

def service : CoreOperation → CoreService
  | orchestrate _ _ _ => .orchestration
  | query _ => .query
  | publish _ _ _ _ => .publish
  | fetchKey => .publicKey
  | call service _ => service

/-- What is sent. -/
def request (client : Client C H E) : CoreOperation → ConsumeRequest
  | orchestrate definition _ request =>
    .ofJson (request.form client.system client.config.flags definition).toJson.canonical
  | query form => .ofJson form.toJson.canonical
  | publish eventType payload metadata timeStamp =>
    .ofJson (client.publishForm eventType payload metadata timeStamp).toJson.canonical
  | fetchKey => .empty
  | call _ request => request

/-- What becomes of the answer. -/
def finish (client : Client C H E) (answer : Except Error Reply) :
    CoreOperation → Returned × Client C H E
  | orchestrate definition method _ =>
    Prod.map .count id (client.keepRules definition method answer)
  | query _ =>
    (.entries ((CoreService.query.accept answer).bind (·.json QueryResult.decode)), client)
  | publish _ _ _ _ => (.done (CoreService.publish.outcome answer), client)
  | fetchKey => Prod.map .key id (client.keepKey answer)
  | call service _ => (.reply (service.accept answer), client)

end CoreOperation

namespace Client

def performCore (network : Network (StateM σ) C) (client : Client C H E) :
    CoreOperation → StateM σ (Returned × Client C H E)
  | .orchestrate definition method request =>
    Prod.map .count id <$> client.orchestrate network definition method request
  | .query form => (fun result => (.entries result, client)) <$> client.query network form
  | .publish eventType payload metadata timeStamp =>
    (fun result => (.done result, client)) <$>
      client.publish network eventType payload metadata timeStamp
  | .fetchKey => Prod.map .key id <$> client.fetchKey network
  | .call service request =>
    (fun result => (.reply result, client)) <$> client.callCore network service request

def performRules (network : Network (StateM σ) C) (client : Client C H E) :
    RuleOperation → StateM σ (Returned × Client C H E)
  | .consume definition request =>
    Prod.map .reply id <$> client.consume network definition request
  | .insert rule => pure (.nothing, { client with rules := client.rules.insert rule })
  | .replace definition rules =>
    pure (.nothing, { client with rules := client.rules.replace definition rules })
  | .remove definition => pure (.nothing, { client with rules := client.rules.erase definition })
  | .deactivate stored =>
    pure (.nothing, if stored.number < client.rules.next then
      { client with rules := client.rules.deactivate stored } else client)

def perform (network : Network (StateM σ) C) (client : Client C H E) :
    Operation → StateM σ (Returned × Client C H E)
  | .core operation => client.performCore network operation
  | .services operation => Prod.map .report id <$> operation.run network client
  | .events operation => Prod.map .report id <$> operation.run network client
  | .rules operation => client.performRules network operation

section CoreOperations

theorem orchestrate_eq (network : Network (StateM σ) C) (client : Client C H E)
    (definition method : String) (request : OrchestrationRequest) :
    client.orchestrate network definition method request =
      client.keepRules definition method <$>
        client.call network (CoreService.orchestration.rule client.config)
          (.ofJson (request.form client.system client.config.flags definition).toJson.canonical) := by
  rw [orchestrate, callCore_eq, bind_map_left, map_eq_pure_bind]
  congr 1
  funext answer
  rw [keepRules]
  cases (CoreService.orchestration.accept answer).bind
    (·.json OrchestrationResponse.decode) <;> rfl

/-- A request to a core service is one call, through the rule of the service. -/
theorem performCore_eq (network : Network (StateM σ) C) (client : Client C H E)
    (operation : CoreOperation) :
    client.performCore network operation =
      (operation.finish client · ) <$> client.call network (operation.service.rule client.config)
        (operation.request client) := by
  cases operation with
  | orchestrate definition method request =>
    rw [performCore, orchestrate_eq, Functor.map_map]
    rfl
  | query form =>
    rw [performCore, query, callCore_eq, bind_pure_comp, Functor.map_map, Functor.map_map]
    rfl
  | publish eventType payload metadata timeStamp =>
    rw [performCore, publish, notifyCore_eq, Functor.map_map]
    rfl
  | fetchKey =>
    rw [performCore, fetchKey_eq, Functor.map_map]
    rfl
  | call service request =>
    rw [performCore, callCore_eq, Functor.map_map]
    rfl

theorem finish_watched (client : Client C H E) (operation : CoreOperation)
    (answer : Except Error Reply) :
    operation.finish client.watched answer = Prod.map id watched (operation.finish client answer) := by
  cases operation with
  | orchestrate definition method request =>
    rw [CoreOperation.finish, CoreOperation.finish, keepRules, keepRules]
    cases (CoreService.orchestration.accept answer).bind
      (·.json OrchestrationResponse.decode) <;> rfl
  | fetchKey =>
    rw [CoreOperation.finish, keepKey_watched]
    rfl
  | query _ | publish _ _ _ _ | call _ _ => rfl

theorem exists_shows_performCore {client : Client C H E} {consumer : Consumer C}
    (hhttp : client.consumers.get "HTTP" = .ok consumer) (network : Network (StateM σ) C)
    (note : ConsumerCall C → ω) (operation : CoreOperation) (world : σ) :
    ∃ answer later,
      Shows (client.performCore network operation)
        (client.watched.performCore (network.watched note) operation) (Prod.map id watched) world
        (operation.finish client answer) later
        [note (client.coreCall consumer operation.service (operation.request client) answer)] := by
  obtain ⟨answer, later, hshows⟩ := exists_shows_callCore hhttp network note operation.service
    (operation.request client) world
  refine ⟨answer, later, ?_⟩
  rw [performCore_eq, performCore_eq]
  exact hshows.map (client.finish_watched operation answer)

end CoreOperations

/-- What holds of a client however it got where it is: its rules are told apart by
their numbers, and core services can be called. -/
structure WellFormed (client : Client C H E) : Prop where
  rules : client.rules.Reachable
  consumers : client.consumers.Equipped

/-- The clients that were built, with whatever was declared, and have performed
operations since, each in a world of its own. -/
inductive Reachable : Client C H E → Prop where
  | built {config : Config} {files : Files} {consumers : Consumers C}
      {services : List (ServiceDeclaration H)} {events : List (EventDeclaration E)}
      {client : Client C H E} (hequipped : consumers.Equipped)
      (hbuild : Client.build config files consumers services events = .ok client) :
      Reachable client
  | step {σ : Type} {client : Client C H E} (network : Network (StateM σ) C)
      (operation : Operation) (world : σ) (h : Reachable client) :
      Reachable ((client.perform network operation).run world).1.2

section WellFormed

variable {client built : Client C H E}

theorem keeps_of_addServices {services : List (ServiceDeclaration H)}
    (hadd : services.foldlM addService client = .ok built) :
    built.rules = client.rules ∧ built.consumers = client.consumers := by
  induction services generalizing client with
  | nil =>
    obtain rfl := Except.ok.inj hadd
    exact ⟨rfl, rfl⟩
  | cons declared services ih =>
    rw [List.foldlM_cons, Error.bind_eq_ok_iff] at hadd
    obtain ⟨next, hnext, hadd⟩ := hadd
    obtain ⟨policy, -, -, rfl⟩ := addService_eq_ok_iff.1 hnext
    have hrest := ih hadd
    exact hrest

theorem keeps_of_addEvents (events : List (EventDeclaration E)) (client : Client C H E) :
    (events.foldl addEvent client).rules = client.rules ∧
      (events.foldl addEvent client).consumers = client.consumers := by
  induction events generalizing client with
  | nil => exact ⟨rfl, rfl⟩
  | cons declared events ih => exact ih (client.addEvent declared)

theorem WellFormed.of_build {config : Config} {files : Files} {consumers : Consumers C}
    {services : List (ServiceDeclaration H)} {events : List (EventDeclaration E)}
    (hequipped : consumers.Equipped)
    (hbuild : Client.build config files consumers services events = .ok built) :
    built.WellFormed := by
  simp only [build, Error.bind_eq_ok_iff] at hbuild
  obtain ⟨system, -, -, -, providerKey, -, authorizationKey, -, client, hadd, hbuilt⟩ := hbuild
  obtain rfl := Except.ok.inj hbuilt
  obtain ⟨hrules, hconsumers⟩ := keeps_of_addServices hadd
  obtain ⟨hrules', hconsumers'⟩ := keeps_of_addEvents events client
  constructor
  · rw [hrules', hrules]
    exact .empty
  · rw [hconsumers', hconsumers]
    exact hequipped

theorem WellFormed.finish (h : client.WellFormed) (operation : CoreOperation)
    (answer : Except Error Reply) : (operation.finish client answer).2.WellFormed := by
  cases operation with
  | orchestrate definition method request =>
    rw [CoreOperation.finish, keepRules]
    cases (CoreService.orchestration.accept answer).bind (·.json OrchestrationResponse.decode) with
    | error failure => exact h
    | ok response => exact ⟨h.rules.replace definition _, h.consumers⟩
  | fetchKey =>
    obtain ⟨key, hkey⟩ := client.exists_keepKey answer
    have hafter : (CoreOperation.fetchKey.finish client answer).2 =
        { client with authorizationKey := key } := hkey
    rw [hafter]
    exact ⟨h.rules, h.consumers⟩
  | query _ | publish _ _ _ _ | call _ _ => exact h

theorem WellFormed.performRules (h : client.WellFormed) (network : Network (StateM σ) C)
    (operation : RuleOperation) (world : σ) :
    ((client.performRules network operation).run world).1.2.WellFormed := by
  cases operation with
  | consume definition request =>
    obtain ⟨attempts, reply, after, last, hconsumed⟩ :=
      consume_consumed network client h.rules.wellNumbered definition request world
    have hrules : after.rules.Reachable := hconsumed.failsOver.reachable h.rules fun _ hstored =>
      h.rules.wellNumbered.unambiguous.issued hstored
    have hafter : ((client.performRules network (.consume definition request)).run world).1.2 =
        after := by
      rw [Client.performRules, StateT.run_map, hconsumed.run]
      rfl
    rw [hafter, hconsumed.others]
    exact ⟨hrules, h.consumers⟩
  | insert rule => exact ⟨h.rules.insert rule, h.consumers⟩
  | replace definition rules => exact ⟨h.rules.replace definition rules, h.consumers⟩
  | remove definition => exact ⟨h.rules.erase definition, h.consumers⟩
  | deactivate stored =>
    have hafter : ((client.performRules network (.deactivate stored)).run world).1.2 =
        if stored.number < client.rules.next then
          { client with rules := client.rules.deactivate stored } else client := rfl
    rw [hafter]
    split
    next hissued => exact ⟨h.rules.deactivate hissued, h.consumers⟩
    next => exact h

theorem WellFormed.perform (h : client.WellFormed) (network : Network (StateM σ) C)
    (operation : Operation) (world : σ) :
    ((client.perform network operation).run world).1.2.WellFormed := by
  cases operation with
  | core operation =>
    rw [Client.perform, performCore_eq, StateT.run_map]
    exact h.finish operation _
  | services operation => cases operation <;> exact ⟨h.rules, h.consumers⟩
  | events operation => cases operation <;> exact ⟨h.rules, h.consumers⟩
  | rules operation => exact h.performRules network operation world

theorem Reachable.wellFormed (h : client.Reachable) : client.WellFormed := by
  induction h with
  | built hequipped hbuild => exact .of_build hequipped hbuild
  | step network operation world _ ih => exact ih.perform network operation world

end WellFormed

end Client

end LocalCloud
