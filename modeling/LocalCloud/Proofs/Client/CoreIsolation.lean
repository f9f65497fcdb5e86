import LocalCloud.Proofs.Client.Operations

/-!
# Core services and the rules of users

What a client asks of core services, and what it makes of the answers, does not
depend on the rules that were found for its user.  This is shown for whole
histories, in which the rules may change and be called through at any time: the
operations on rules leave everything else as it is, an operation on core services
goes the same for clients that differ in their rules only, and the answers
determine the rest.
-/

namespace LocalCloud

variable {C H E σ τ : Type}

/-- Whether an operation is about core services. -/
def Operation.isCore : Operation → Bool
  | .rules _ => false
  | _ => true

namespace Client

/-- The client before any rules were found for its user. -/
def withoutRules (client : Client C H E) : Client C H E :=
  { client with rules := .empty }

/-- The clients differ at most in the rules of their users: configuration, services,
subscriptions, marks and keys are the same. -/
def SameButRules (first second : Client C H E) : Prop :=
  first.withoutRules = second.withoutRules

theorem SameButRules.eq_with_rules {first second : Client C H E} (h : first.SameButRules second) :
    second = { first with rules := second.rules } := by
  have hrules : { second.withoutRules with rules := second.rules } = second := rfl
  rw [← hrules, ← h]
  rfl

/-- What becomes of an answer does not depend on the rules of the user. -/
theorem finish_with_rules (client : Client C H E) (rules : RuleStore) (operation : CoreOperation)
    (answer : Except Error Reply) :
    (operation.finish { client with rules := rules } answer).1 =
        (operation.finish client answer).1 ∧
      (operation.finish client answer).2.SameButRules
        (operation.finish { client with rules := rules } answer).2 := by
  cases operation with
  | orchestrate definition method request =>
    rw [CoreOperation.finish, CoreOperation.finish, keepRules, keepRules]
    cases (CoreService.orchestration.accept answer).bind
      (·.json OrchestrationResponse.decode) <;> exact ⟨rfl, rfl⟩
  | fetchKey =>
    rw [CoreOperation.finish, CoreOperation.finish, keepKey, keepKey]
    cases (CoreService.publicKey.accept answer).bind
      fun reply => Certificate.publicKeyPem reply.text <;> exact ⟨rfl, rfl⟩
  | query _ | publish _ _ _ _ | call _ _ => exact ⟨rfl, rfl⟩

/-- How an operation on core services goes: the calls it makes with their answers,
what it returns and the client it leaves. -/
inductive Performs (consumer : Consumer C) (client : Client C H E) :
    Operation → List (ConsumerCall C) → Returned → Client C H E → Prop where
  | core (operation : CoreOperation) (answer : Except Error Reply) :
      Performs consumer client (.core operation)
        [client.coreCall consumer operation.service (operation.request client) answer]
        (operation.finish client answer).1 (operation.finish client answer).2
  | services {operation : ServiceOperation}
      {answered : List (ProvidedService H × Except Error Reply)}
      {settled : List (ProvidedService H)} {report : Report}
      (hvisits : operation.bulk.change.Visits (operation.bulk (H := H)).service.outcome
        client.services.items answered settled report) :
      Performs consumer client (.services operation)
        (operation.bulk.callsFor client consumer answered) (.report report)
        { client with services := ⟨settled⟩ }
  | events {operation : EventOperation}
      {answered : List (Subscription E × Except Error Reply)}
      {settled : List (Subscription E)} {report : Report}
      (hvisits : operation.bulk.change.Visits (operation.bulk (E := E)).service.outcome
        client.events.items answered settled report) :
      Performs consumer client (.events operation)
        (operation.bulk.callsFor client consumer answered) (.report report)
        { client with events := ⟨settled⟩ }

namespace Performs

variable {consumer : Consumer C} {first second client after after' : Client C H E}
variable {operation : Operation} {calls calls' : List (ConsumerCall C)}
variable {returned returned' : Returned}

theorem consumers_eq (h : Performs consumer client operation calls returned after) :
    after.consumers = client.consumers := by
  cases h with
  | core operation answer =>
    cases operation with
    | orchestrate definition method request =>
      rw [CoreOperation.finish, keepRules]
      cases (CoreService.orchestration.accept answer).bind
        (·.json OrchestrationResponse.decode) <;> rfl
    | fetchKey =>
      obtain ⟨key, hkey⟩ := client.exists_keepKey answer
      have hafter : (CoreOperation.fetchKey.finish client answer).2 =
          { client with authorizationKey := key } := hkey
      rw [hafter]
    | query _ | publish _ _ _ _ | call _ _ => rfl
  | services _ => rfl
  | events _ => rfl

/-- The rules of users play no part. -/
theorem of_sameButRules (h : Performs consumer first operation calls returned after)
    (hsame : first.SameButRules second) :
    ∃ after', Performs consumer second operation calls returned after' ∧
      after.SameButRules after' := by
  rw [hsame.eq_with_rules]
  generalize second.rules = rules
  cases h with
  | core operation answer =>
    obtain ⟨hreturned, hsame⟩ := first.finish_with_rules rules operation answer
    refine ⟨(operation.finish { first with rules := rules } answer).2, ?_, hsame⟩
    rw [← hreturned]
    exact .core operation answer
  | services hvisits => exact ⟨_, .services hvisits, rfl⟩
  | events hvisits => exact ⟨_, .events hvisits, rfl⟩

/-- The answers determine everything. -/
theorem unique (h : Performs consumer client operation calls returned after)
    (h' : Performs consumer client operation calls' returned' after')
    (hanswers : calls.map ConsumerCall.answer = calls'.map ConsumerCall.answer) :
    calls = calls' ∧ returned = returned' ∧ after = after' := by
  cases h with
  | core operation answer =>
    cases h' with
    | core _ answer' =>
      obtain rfl : answer = answer' := List.singleton_injective hanswers
      exact ⟨rfl, rfl, rfl⟩
  | services hvisits =>
    cases h' with
    | services hvisits' =>
      rw [Bulk.map_answer_callsFor, Bulk.map_answer_callsFor] at hanswers
      obtain ⟨rfl, rfl, rfl⟩ := hvisits.unique hvisits' hanswers
      exact ⟨rfl, rfl, rfl⟩
  | events hvisits =>
    cases h' with
    | events hvisits' =>
      rw [Bulk.map_answer_callsFor, Bulk.map_answer_callsFor] at hanswers
      obtain ⟨rfl, rfl, rfl⟩ := hvisits.unique hvisits' hanswers
      exact ⟨rfl, rfl, rfl⟩

end Performs

/-- The calls that an operation hands to consumers, when it is performed in a world. -/
def callsOf (network : Network (StateM σ) C) (client : Client C H E) (operation : Operation)
    (world : σ) : List (ConsumerCall C) :=
  ((client.watched.perform (network.watched id) operation).run (world, [])).2.2

section Operations

variable {client : Client C H E} {consumer : Consumer C}

theorem callsOf_eq {network : Network (StateM σ) C} {operation : Operation} {world later : σ}
    {result : Returned × Client C H E} {calls : List (ConsumerCall C)}
    (h : Shows (client.perform network operation)
      (client.watched.perform (network.watched id) operation) (Prod.map id watched) world result
      later (calls.map id)) :
    client.callsOf network operation world = calls := by
  rw [callsOf, h.run_counterpart, List.nil_append, List.map_id]

/-- Whatever the world, an operation on core services goes as it should. -/
theorem exists_performs (hhttp : client.consumers.get "HTTP" = .ok consumer)
    (network : Network (StateM σ) C) (operation : Operation) (hcore : operation.isCore = true)
    (world : σ) :
    ∃ calls returned after later,
      (client.perform network operation).run world = ((returned, after), later) ∧
      client.callsOf network operation world = calls ∧
      Performs consumer client operation calls returned after := by
  cases operation with
  | core operation =>
    obtain ⟨answer, later, hshows⟩ := exists_shows_performCore hhttp network id operation world
    have hperform : Shows (client.perform network (.core operation))
        (client.watched.perform (network.watched id) (.core operation)) (Prod.map id watched) world
        (operation.finish client answer) later (List.map id
          [client.coreCall consumer operation.service (operation.request client) answer]) := hshows
    exact ⟨_, _, _, later, hperform.run_action, callsOf_eq hperform, .core operation answer⟩
  | services operation =>
    obtain ⟨answered, settled, report, later, hvisits, hshows⟩ :=
      exists_shows_changeServices hhttp network id world operation.bulk
    have hperform : Shows (client.perform network (.services operation))
        (client.watched.perform (network.watched id) (.services operation)) (Prod.map id watched)
        world (.report report, { client with services := ⟨settled⟩ }) later
        ((operation.bulk.callsFor client consumer answered).map id) := by
      cases operation <;> exact hshows.map rfl
    exact ⟨_, _, _, later, hperform.run_action, callsOf_eq hperform, .services hvisits⟩
  | events operation =>
    obtain ⟨answered, settled, report, later, hvisits, hshows⟩ :=
      exists_shows_changeEvents hhttp network id world operation.bulk
    have hperform : Shows (client.perform network (.events operation))
        (client.watched.perform (network.watched id) (.events operation)) (Prod.map id watched)
        world (.report report, { client with events := ⟨settled⟩ }) later
        ((operation.bulk.callsFor client consumer answered).map id) := by
      cases operation <;> exact hshows.map rfl
    exact ⟨_, _, _, later, hperform.run_action, callsOf_eq hperform, .events hvisits⟩
  | rules operation => exact absurd hcore Bool.false_ne_true

theorem exists_callsOf_core (hhttp : client.consumers.get "HTTP" = .ok consumer)
    (network : Network (StateM σ) C) (operation : CoreOperation) (world : σ) :
    ∃ answer, client.callsOf network (.core operation) world =
      [client.coreCall consumer operation.service (operation.request client) answer] := by
  obtain ⟨calls, returned, after, later, -, hcalls, hperforms⟩ :=
    exists_performs hhttp network (.core operation) rfl world
  cases hperforms with
  | core _ answer => exact ⟨answer, hcalls⟩

/-- An operation on the rules of the user changes nothing else. -/
theorem performRules_sameButRules (network : Network (StateM σ) C) (client : Client C H E)
    (operation : RuleOperation) (world : σ) :
    client.SameButRules ((client.performRules network operation).run world).1.2 := by
  cases operation with
  | deactivate stored =>
    have hafter : ((client.performRules network (.deactivate stored)).run world).1.2 =
        if stored.number < client.rules.next then
          { client with rules := client.rules.deactivate stored } else client := rfl
    rw [hafter]
    split <;> rfl
  | consume _ _ | insert _ | replace _ _ | remove _ => rfl

end Operations

end Client

/-- An operation on core services in a history, with the calls it made and what it
returned. -/
structure Performed (C : Type) where
  operation : Operation
  calls : List (ConsumerCall C)
  returned : Returned

def Performed.answers (performed : Performed C) : List (Except Error Reply) :=
  performed.calls.map ConsumerCall.answer

namespace Client

/-- What is exchanged with core services while a client performs operations one
after another. -/
def transcript (network : Network (StateM σ) C) :
    Client C H E → List Operation → σ → List (Performed C)
  | _, [], _ => []
  | client, operation :: rest, world =>
    let result := (client.perform network operation).run world
    let later := transcript network result.1.2 rest result.2
    if operation.isCore then
      ⟨operation, client.callsOf network operation world, result.1.1⟩ :: later
    else later

/-- What is exchanged with core services, without regard to the rules of the user and
to the world. -/
inductive Exchanges (consumer : Consumer C) : Client C H E → List (Performed C) → Prop where
  | nil (client : Client C H E) : Exchanges consumer client []
  | cons {client after : Client C H E} {operation : Operation} {calls : List (ConsumerCall C)}
      {returned : Returned} {rest : List (Performed C)}
      (hperforms : Performs consumer client operation calls returned after)
      (hrest : Exchanges consumer after rest) :
      Exchanges consumer client (⟨operation, calls, returned⟩ :: rest)

namespace Exchanges

variable {consumer : Consumer C} {first second client : Client C H E}
variable {exchanged exchanged' : List (Performed C)}

theorem of_sameButRules (h : Exchanges consumer first exchanged)
    (hsame : first.SameButRules second) : Exchanges consumer second exchanged := by
  induction h generalizing second with
  | nil => exact .nil second
  | cons hperforms _ ih =>
    obtain ⟨after, hperforms', hsame'⟩ := hperforms.of_sameButRules hsame
    exact .cons hperforms' (ih hsame')

/-- Of a client, the operations and the answers determine what is exchanged. -/
theorem unique (h : Exchanges consumer client exchanged) (h' : Exchanges consumer client exchanged')
    (hoperations : exchanged.map Performed.operation = exchanged'.map Performed.operation)
    (hanswers : exchanged.map Performed.answers = exchanged'.map Performed.answers) :
    exchanged = exchanged' := by
  induction h generalizing exchanged' with
  | nil => exact (List.map_eq_nil_iff.1 hoperations.symm).symm
  | cons hperforms _ ih =>
    cases h' with
    | nil => exact absurd hoperations (List.cons_ne_nil _ _)
    | cons hperforms' hrest' =>
      rw [List.map_cons, List.map_cons, List.cons.injEq] at hoperations hanswers
      obtain ⟨rfl, hoperations⟩ := hoperations
      obtain ⟨rfl, rfl, rfl⟩ := hperforms.unique hperforms' hanswers.1
      rw [ih hrest' hoperations hanswers.2]

end Exchanges

section Transcripts

variable {client : Client C H E} {consumer : Consumer C}

theorem map_operation_transcript (network : Network (StateM σ) C) (client : Client C H E)
    (history : List Operation) (world : σ) :
    (client.transcript network history world).map Performed.operation =
      history.filter Operation.isCore := by
  induction history generalizing client world with
  | nil => rfl
  | cons operation rest ih =>
    rw [transcript]
    cases hcore : operation.isCore with
    | true => simp [hcore, ih]
    | false => simp [hcore, ih]

/-- The operations on rules in a history leave no trace in what is exchanged. -/
theorem exchanges_transcript (hhttp : client.consumers.get "HTTP" = .ok consumer)
    (network : Network (StateM σ) C) (history : List Operation) (world : σ) :
    Exchanges consumer client (client.transcript network history world) := by
  induction history generalizing client world with
  | nil => exact .nil client
  | cons operation rest ih =>
    rw [transcript]
    cases hcore : operation.isCore with
    | true =>
      obtain ⟨calls, returned, after, later, hrun, hcalls, hperforms⟩ :=
        exists_performs hhttp network _ hcore world
      rw [hrun, hcalls]
      rw [← hperforms.consumers_eq] at hhttp
      exact .cons hperforms (ih hhttp later)
    | false =>
      obtain ⟨operation, rfl⟩ : ∃ rules, operation = .rules rules := by
        cases operation with
        | rules operation => exact ⟨operation, rfl⟩
        | core _ | services _ | events _ => exact absurd hcore.symm Bool.false_ne_true
      have hsame := performRules_sameButRules network client operation world
      have hhttp' : ((client.performRules network operation).run world).1.2.consumers.get "HTTP" =
          .ok consumer := by
        rw [hsame.eq_with_rules]
        exact hhttp
      exact (ih hhttp' _).of_sameButRules hsame.symm

/-- Clients that differ in the rules of their users exchange the same with core
services when they are asked for the same and get the same answers, whatever is done
with the rules in between. -/
theorem transcript_eq_of_sameButRules {first second : Client C H E}
    (hhttp : first.consumers.get "HTTP" = .ok consumer) (hsame : first.SameButRules second)
    {network : Network (StateM σ) C} {network' : Network (StateM τ) C}
    {history history' : List Operation} {world : σ} {world' : τ}
    (hoperations : history.filter Operation.isCore = history'.filter Operation.isCore)
    (hanswers : (first.transcript network history world).map Performed.answers =
      (second.transcript network' history' world').map Performed.answers) :
    first.transcript network history world = second.transcript network' history' world' := by
  have hhttp' : second.consumers.get "HTTP" = .ok consumer := by
    rw [hsame.eq_with_rules]
    exact hhttp
  have hfirst := exchanges_transcript hhttp network history world
  have hsecond := (exchanges_transcript hhttp' network' history' world').of_sameButRules hsame.symm
  apply hfirst.unique hsecond _ hanswers
  rw [map_operation_transcript, map_operation_transcript, hoperations]

end Transcripts

end Client

theorem OrchestrationRule.active_of_mem_ofEntries {entries : List OrchestrationEntry}
    {method : String} {rule : OrchestrationRule} (h : rule ∈ ofEntries entries method) :
    rule.active = true := by
  obtain ⟨entry, -, hentry⟩ := List.mem_filterMap.1 h
  cases hrule : ofEntry entry method with
  | error failure =>
    rw [hrule] at hentry
    cases hentry
  | ok found =>
    rw [hrule] at hentry
    obtain rfl := Option.some.inj hentry
    obtain ⟨service, -, hfound⟩ := Error.bind_eq_ok_iff.1 hrule
    rw [← Except.ok.inj hfound]
    rfl

namespace Client

/-- The client has new rules for a definition, all of them active, and nothing else
has changed. -/
structure Resolved (client : Client C H E) (definition : String) (count : Nat)
    (after : Client C H E) : Prop where
  others : after = { client with rules := after.rules }
  list_other : ∀ other, other ≠ definition → after.rules.list other = client.rules.list other
  isActive_other : ∀ other, ∀ stored ∈ client.rules.list other,
    after.rules.isActive stored = client.rules.isActive stored
  isActive : ∀ stored ∈ after.rules.list definition, after.rules.isActive stored = true
  length : (after.rules.list definition).length = count

/-- Nothing has changed but that rules of a definition may have become inactive. -/
structure CalledThrough (client : Client C H E) (definition : String) (after : Client C H E) :
    Prop where
  others : after = { client with rules := after.rules }
  lists : after.rules.lists = client.rules.lists
  isActive_other : ∀ other, other ≠ definition → ∀ stored ∈ client.rules.list other,
    after.rules.isActive stored = client.rules.isActive stored

section Effects

variable {client after : Client C H E}

theorem eq_of_keepRules_error {definition method : String} {answer : Except Error Reply}
    {failure : Error} (h : client.keepRules definition method answer = (.error failure, after)) :
    after = client := by
  unfold keepRules at h
  cases hdecoded : (CoreService.orchestration.accept answer).bind
      (·.json OrchestrationResponse.decode) with
  | error found =>
    rw [hdecoded] at h
    exact (Prod.mk.inj h).2.symm
  | ok response =>
    rw [hdecoded] at h
    exact nomatch (Prod.mk.inj h).1

theorem resolved_of_keepRules {definition method : String} {answer : Except Error Reply}
    {count : Nat} (hclient : client.rules.WellNumbered)
    (h : client.keepRules definition method answer = (.ok count, after)) :
    client.Resolved definition count after := by
  unfold keepRules at h
  cases hdecoded : (CoreService.orchestration.accept answer).bind
      (·.json OrchestrationResponse.decode) with
  | error found =>
    rw [hdecoded] at h
    exact nomatch (Prod.mk.inj h).1
  | ok response =>
    rw [hdecoded] at h
    obtain ⟨hcount, rfl⟩ := Prod.mk.inj h
    have hlist : (client.rules.replace definition
        (OrchestrationRule.ofEntries response.entries method)).list definition =
          RuleStore.number client.rules.next
            (OrchestrationRule.ofEntries response.entries method) := by
      rw [RuleStore.list_replace, if_pos rfl]
    refine ⟨rfl, ?list_other, fun _ _ _ => rfl, ?isActive, ?length⟩
    case list_other =>
      intro other hother
      exact (RuleStore.list_replace _ _ _ _).trans (if_neg hother)
    case isActive =>
      intro stored hstored
      rw [hlist] at hstored
      have hactive := OrchestrationRule.active_of_mem_ofEntries
        (RuleStore.rule_mem_of_mem_number hstored)
      have hfresh : client.rules.retired.contains stored.number = false := by
        rw [List.contains_eq_mem, decide_eq_false_iff_not]
        exact (hclient.isFresh_number hstored).unretired
      change client.rules.isActive stored = true
      rw [RuleStore.isActive, hactive, hfresh]
      rfl
    case length =>
      rw [hlist, RuleStore.length_number]
      exact Except.ok.inj hcount

theorem eq_of_keepKey_error {answer : Except Error Reply} {failure : Error}
    (h : client.keepKey answer = (.error failure, after)) : after = client := by
  unfold keepKey at h
  cases hdecoded : (CoreService.publicKey.accept answer).bind
      fun reply => Certificate.publicKeyPem reply.text with
  | error found =>
    rw [hdecoded] at h
    exact (Prod.mk.inj h).2.symm
  | ok pem =>
    rw [hdecoded] at h
    exact nomatch (Prod.mk.inj h).1

theorem calledThrough_of_consume (hclient : client.rules.WellNumbered)
    {network : Network (StateM σ) C} {definition : String} {request : ConsumeRequest}
    {reply : Except Error Reply} {world last : σ}
    (h : (client.consume network definition request).run world = ((reply, after), last)) :
    client.CalledThrough definition after := by
  obtain ⟨attempts, found, left, _, hconsumed⟩ :=
    consume_consumed network client hclient definition request world
  obtain ⟨hresult, -⟩ := Prod.mk.inj (hconsumed.run.symm.trans h)
  obtain ⟨-, rfl⟩ := Prod.mk.inj hresult
  refine ⟨hconsumed.others, hconsumed.failsOver.lists, ?_⟩
  intro other hother stored hstored
  rw [Bool.eq_iff_iff, hconsumed.isActive_iff hclient hstored]
  refine and_iff_left ?_
  intro attempt hattempt _ heq
  have htried := hconsumed.failsOver.mem_list hattempt
  rw [heq] at htried
  exact hother (hclient.unambiguous.unique hstored htried rfl).1

end Effects

/-- What operations do to a client, and what core services get to see of it. -/
structure Isolated (network : Network (StateM σ) C) (client : Client C H E) : Prop where
  /-- An orchestration that fails changes nothing. -/
  orchestrate_error : ∀ {definition method request world failure after later},
    (client.orchestrate network definition method request).run world =
      ((.error failure, after), later) → after = client
  orchestrate_ok : ∀ {definition method request world count after later},
    (client.orchestrate network definition method request).run world =
      ((.ok count, after), later) → client.Resolved definition count after
  /-- Without an answer the key stays as it is, and so does everything else. -/
  fetchKey_error : ∀ {world failure after later},
    (client.fetchKey network).run world = ((.error failure, after), later) → after = client
  query : ∀ form world,
    ((client.perform network (.core (.query form))).run world).1.2 = client
  publish : ∀ eventType payload metadata timeStamp world,
    ((client.perform network (.core (.publish eventType payload metadata timeStamp))).run
      world).1.2 = client
  consume : ∀ {definition request world reply after later},
    (client.consume network definition request).run world = ((reply, after), later) →
      client.CalledThrough definition after
  /-- A request to a core service is one call through the rule of that service. -/
  sends : ∃ consumer, client.consumers.get "HTTP" = .ok consumer ∧
    ∀ operation world, ∃ answer, client.callsOf network (.core operation) world =
      [⟨consumer, operation.service.rule client.config, operation.request client, answer⟩]
  /-- A bulk operation makes such a call for each item that is not in the wanted
  state. -/
  sends_services : ∃ consumer, client.consumers.get "HTTP" = .ok consumer ∧
    ∀ (operation : ServiceOperation) world, ∃ answered,
      client.callsOf network (.services operation) world =
        operation.bulk.callsFor client consumer answered ∧
      answered.map Prod.fst = client.services.items.filter fun provided =>
        !operation.bulk.change.isReached provided
  sends_events : ∃ consumer, client.consumers.get "HTTP" = .ok consumer ∧
    ∀ (operation : EventOperation) world, ∃ answered,
      client.callsOf network (.events operation) world =
        operation.bulk.callsFor client consumer answered ∧
      answered.map Prod.fst = client.events.items.filter fun subscription =>
        !operation.bulk.change.isReached subscription
  /-- The rule of a service leads to where the configuration says the core system is. -/
  addressed : ∀ service : CoreService,
    (service.rule client.config).provider.address = (service.system.address client.config).address ∧
      (service.rule client.config).provider.port = (service.system.address client.config).port
  /-- The rules of the user make no difference to core services, nor to what is made of
  their answers. -/
  undisturbed : ∀ {τ : Type} {network' : Network (StateM τ) C} {other : Client C H E}
    {history history' : List Operation} {world : σ} {world' : τ}, client.SameButRules other →
    history.filter Operation.isCore = history'.filter Operation.isCore →
    (client.transcript network history world).map Performed.answers =
      (other.transcript network' history' world').map Performed.answers →
    client.transcript network history world = other.transcript network' history' world'

/-- Of every client that was built, whatever it has done since. -/
theorem isolated_of_reachable {client : Client C H E} (h : client.Reachable)
    (network : Network (StateM σ) C) : client.Isolated network where
  orchestrate_error hrun := by
    rw [orchestrate_eq] at hrun
    exact eq_of_keepRules_error (Prod.mk.inj hrun).1
  orchestrate_ok hrun := by
    rw [orchestrate_eq] at hrun
    exact resolved_of_keepRules h.wellFormed.rules.wellNumbered (Prod.mk.inj hrun).1
  fetchKey_error hrun := by
    rw [fetchKey_eq] at hrun
    exact eq_of_keepKey_error (Prod.mk.inj hrun).1
  query _ _ := rfl
  publish _ _ _ _ _ := rfl
  consume hrun := calledThrough_of_consume h.wellFormed.rules.wellNumbered hrun
  sends := by
    obtain ⟨consumer, hhttp⟩ := h.wellFormed.consumers.exists_http
    exact ⟨consumer, hhttp, exists_callsOf_core hhttp network⟩
  sends_services := by
    obtain ⟨consumer, hhttp⟩ := h.wellFormed.consumers.exists_http
    refine ⟨consumer, hhttp, ?_⟩
    intro operation world
    obtain ⟨calls, returned, after, later, -, hcalls, hperforms⟩ :=
      exists_performs hhttp network (.services operation) rfl world
    cases hperforms with
    | services hvisits => exact ⟨_, hcalls, hvisits.map_fst⟩
  sends_events := by
    obtain ⟨consumer, hhttp⟩ := h.wellFormed.consumers.exists_http
    refine ⟨consumer, hhttp, ?_⟩
    intro operation world
    obtain ⟨calls, returned, after, later, -, hcalls, hperforms⟩ :=
      exists_performs hhttp network (.events operation) rfl world
    cases hperforms with
    | events hvisits => exact ⟨_, hcalls, hvisits.map_fst⟩
  addressed _ := ⟨rfl, rfl⟩
  undisturbed hsame hoperations hanswers := by
    obtain ⟨consumer, hhttp⟩ := h.wellFormed.consumers.exists_http
    exact transcript_eq_of_sameButRules hhttp hsame hoperations hanswers

/-- A client whose user stores a rule under the definition of a core service. -/
theorem isolated_of_reachable_shadowed :
    let interface : Interface := ⟨"HTTP", "INSECURE", "JSON"⟩
    let service (definition : String) : Service :=
      ⟨definition, definition, interface, .unrestricted, ∅, none⟩
    let system : System := ⟨"arrowhead_client", "127.0.0.1", 7000, none⟩
    let shadow : OrchestrationRule :=
      .ofParts (service "service-register") ⟨"stranger", "10.0.0.9", 9000, none⟩ "POST"
    let network : Network (StateM Nat) Unit := {
      http := fun _ => fun calls => (.lost "refused", calls + 1)
      webSocket := fun _ => pure (.lost "unused")
      custom := fun _ _ _ => pure (.error (.transport "unused")) }
    let client : Client Unit Unit Unit := {
      config := { secure := false }
      system := system
      consumers := .builtIn
      rules := RuleStore.empty.insert shadow
      services := ⟨[.declare (service "echo") system "GET" () .unrestricted]⟩ }
    client.Reachable ∧ client.Isolated network := by
  intro interface service system shadow network client
  let built : Client Unit Unit Unit := { client with rules := .empty }
  have hbuild : Client.build { secure := false } ∅ .builtIn [⟨service "echo", "GET", ()⟩] [] =
      .ok built := by
    simp [Client.build, Config.system, ClientIdentity.checkAll, Client.readProviderKey,
      Client.readAuthorizationKey, Client.addService, AccessPolicy.ofService,
      ProvidedServices.insert, ProvidedServices.empty, ProvidedService.declare, pure, Except.pure,
      bind, Except.bind, client, built, service, system]
  have hreachable : client.Reachable :=
    .step network (.rules (.insert shadow)) 0 (.built .standard hbuild)
  exact ⟨hreachable, isolated_of_reachable hreachable network⟩

end Client

end LocalCloud
