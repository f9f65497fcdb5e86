import LocalCloud.Proofs.Client.CoreIsolation
import LocalCloud.Proofs.Json.Reading
import LocalCloud.Proofs.Orchestration.EntryRules

/-!
# Answers of the orchestrator

An orchestration is one call of the orchestrator.  The usable entries of its answer
take the place of the rules that were stored under the definition, and an answer that
cannot be had or read changes nothing.
-/

namespace LocalCloud.Client

variable {C H E σ : Type}

/-- The usable entries of an answer are what the client now has stored under a
definition, as active rules with numbers of their own. -/
structure Stores (client : Client C H E) (definition method : String)
    (response : OrchestrationResponse) (count : Nat) (after : Client C H E) : Prop where
  yields : OrchestrationEntry.YieldAll method response.entries
    ((after.rules.list definition).map (·.rule))
  resolved : client.Resolved definition count after
  fresh : ∀ stored ∈ after.rules.list definition, client.rules.IsFresh stored.number
  ascending : (after.rules.list definition).Pairwise fun left right => left.number < right.number

/-- What becomes of the answer of the orchestrator. -/
inductive TakesAnswer (client : Client C H E) (definition method : String) :
    Except Error Reply → Except Error Nat → Client C H E → Prop where
  | stored {reply : Reply} {response : OrchestrationResponse} {count : Nat}
      {after : Client C H E} (hread : reply.json OrchestrationResponse.decode = .ok response)
      (hstores : client.Stores definition method response count after) :
      TakesAnswer client definition method (.ok reply) (.ok count) after
  | unreadable {reply : Reply} {failure : Error}
      (hread : reply.json OrchestrationResponse.decode = .error failure) :
      TakesAnswer client definition method (.ok reply) (.error failure) client
  | refused {failure : Error} :
      TakesAnswer client definition method (.error failure) (.error failure) client

section

variable {client : Client C H E}

theorem stores_of_keepRules {definition method : String} {answer : Except Error Reply}
    {response : OrchestrationResponse} {count : Nat} {after : Client C H E}
    (hclient : client.rules.WellNumbered)
    (hread : (CoreService.orchestration.accept answer).bind
      (·.json OrchestrationResponse.decode) = .ok response)
    (h : client.keepRules definition method answer = (.ok count, after)) :
    client.Stores definition method response count after := by
  have hresolved := resolved_of_keepRules hclient h
  have hlist : after.rules.list definition = RuleStore.number client.rules.next
      (OrchestrationRule.ofEntries response.entries method) := by
    rw [keepRules, hread] at h
    obtain ⟨-, rfl⟩ := Prod.mk.inj h
    rw [RuleStore.list_replace, if_pos rfl]
  refine ⟨?yields, hresolved, ?fresh, ?ascending⟩
  case yields =>
    rw [hlist, RuleStore.map_rule_number]
    exact OrchestrationEntry.yieldAll_ofEntries method response.entries
  case fresh =>
    intro stored hstored
    rw [hlist] at hstored
    exact hclient.isFresh_number hstored
  case ascending =>
    rw [hlist]
    exact RuleStore.number_ascending _ _

theorem takesAnswer_keepRules (hclient : client.rules.WellNumbered) (definition method : String)
    (answer : Except Error Reply) :
    client.TakesAnswer definition method (CoreService.orchestration.accept answer)
      (client.keepRules definition method answer).1
      (client.keepRules definition method answer).2 := by
  cases haccepted : CoreService.orchestration.accept answer with
  | error failure =>
    have hkept : client.keepRules definition method answer = (.error failure, client) := by
      rw [keepRules, haccepted]
      rfl
    rw [hkept]
    exact .refused
  | ok reply =>
    have hbind : (CoreService.orchestration.accept answer).bind
        (·.json OrchestrationResponse.decode) = reply.json OrchestrationResponse.decode := by
      rw [haccepted]
      rfl
    cases hread : reply.json OrchestrationResponse.decode with
    | error failure =>
      have hkept : client.keepRules definition method answer = (.error failure, client) := by
        rw [keepRules, hbind, hread]
      rw [hkept]
      exact .unreadable hread
    | ok response =>
      let rules := OrchestrationRule.ofEntries response.entries method
      have hkept : client.keepRules definition method answer =
          (.ok rules.length, { client with rules := client.rules.replace definition rules }) := by
        rw [keepRules, hbind, hread]
      rw [hkept]
      exact .stored hread (stores_of_keepRules hclient (hbind.trans hread) hkept)

end

/-- Whatever the orchestrator answers, the client has exactly the rules of the usable
entries afterwards, or is as it was. -/
theorem takesAnswer_of_reachable (client : Client C H E) (hreachable : client.Reachable)
    (network : Network (StateM σ) C) (definition method : String)
    (request : OrchestrationRequest) (world : σ) :
    (∀ entry : OrchestrationEntry, entry.Decided method) ∧
      ∃ answer result after later,
        (client.callCore network .orchestration (.ofJson (request.form client.system
          client.config.flags definition).toJson.canonical)).run world = (answer, later) ∧
        (client.orchestrate network definition method request).run world =
          ((result, after), later) ∧
        client.TakesAnswer definition method answer result after := by
  refine ⟨fun entry => entry.decided method, ?_⟩
  let sent : ConsumeRequest :=
    .ofJson (request.form client.system client.config.flags definition).toJson.canonical
  obtain ⟨given, later, hcall⟩ : ∃ given later,
      (client.call network (CoreService.orchestration.rule client.config) sent).run world =
        (given, later) := ⟨_, _, rfl⟩
  have hasked : (client.callCore network .orchestration sent).run world =
      (CoreService.orchestration.accept given, later) := by
    rw [callCore_eq, StateT.run_map, hcall]
    rfl
  have hkept : (client.orchestrate network definition method request).run world =
      (client.keepRules definition method given, later) := by
    rw [orchestrate_eq, StateT.run_map, hcall]
    rfl
  exact ⟨_, _, _, _, hasked, hkept,
    takesAnswer_keepRules hreachable.wellFormed.rules.wellNumbered definition method given⟩

section Example

/-- One entry of an answer: a provider of a service under some interfaces. -/
def echoEntry (interfaces : List Json.Value) : Json.Value :=
  .object
    [("provider", .object
      [("systemName", .string "provider"), ("address", .string "10.0.0.2"), ("port", .ofNat 8000)]),
      ("service", .object [("serviceDefinition", .string "echo")]),
      ("interfaces", .array interfaces)]

/-- An answer with an entry that lists no interface and one that lists one. -/
def echoAnswer : Json.Value :=
  .object [("response", .array
    [echoEntry [], echoEntry [.object [("interfaceName", .string "http-secure-json")]]])]

theorem exists_read_echoAnswer : ∃ response,
    Reply.json ⟨200, "JSON", echoAnswer.bytes⟩ OrchestrationResponse.decode = .ok response ∧
      (OrchestrationRule.ofEntries response.entries "get").length = 1 := by
  have hintegral : echoAnswer.IsIntegral := by
    simp [echoAnswer, echoEntry, Json.Value.IsIntegral, Json.Value.AreIntegral,
      Json.Value.FieldsAreIntegral, Json.Value.ofNat, Json.Number.IsWord, Json.Number.maxUnsigned]
  have hdecoded : ∃ response, OrchestrationResponse.decode echoAnswer.toNode = some response ∧
      (OrchestrationRule.ofEntries response.entries "get").length = 1 := by
    refine ⟨_, rfl, ?_⟩
    decide +kernel
  obtain ⟨response, hresponse, hlength⟩ := hdecoded
  refine ⟨response, ?_, hlength⟩
  rw [Reply.json, Json.decodeBytes?, Json.Node.ofBytes?_bytes _ hintegral, Option.bind_some,
    hresponse, Error.ofOption]

/-- An orchestrator that gives this answer to a new client. -/
theorem takesAnswer_of_reachable_echo :
    let network : Network (StateM Nat) Unit := {
      http := fun _ => pure (.lost "unused")
      webSocket := fun _ => pure (.lost "unused")
      custom := fun _ _ _ => fun calls => (.ok ⟨200, "JSON", echoAnswer.bytes⟩, calls + 1) }
    let client : Client Unit Unit Unit := {
      config := { secure := false }
      system := ⟨"arrowhead_client", "127.0.0.1", 7000, none⟩
      consumers := Consumers.builtIn.insert "http" (.custom ()) }
    client.Reachable ∧ ∃ response after,
      (client.orchestrate network "echo" "get" {}).run 0 = ((.ok 1, after), 1) ∧
        client.Stores "echo" "get" response 1 after := by
  intro network client
  have hbuild : Client.build { secure := false } ∅ (Consumers.builtIn.insert "http" (.custom ()))
      ([] : List (ServiceDeclaration Unit)) ([] : List (EventDeclaration Unit)) = .ok client := by
    simp [Client.build, Config.system, ClientIdentity.checkAll, Client.readProviderKey,
      Client.readAuthorizationKey, pure, Except.pure, bind, Except.bind, client]
  have hreachable : client.Reachable := .built (.extended .standard "http" _) hbuild
  obtain ⟨-, answer, result, after, later, hasked, hrun, htakes⟩ :=
    takesAnswer_of_reachable client hreachable network "echo" "get" {} 0
  obtain ⟨response, hread, hlength⟩ := exists_read_echoAnswer
  have hconsumer : client.consumers.get (CoreService.orchestration.rule client.config).protocol =
      .ok (.custom ()) := Consumers.get_insert_self (by decide +kernel)
  have hgiven (sent : ConsumeRequest) : (client.callCore network .orchestration sent).run 0 =
      (.ok ⟨200, "JSON", echoAnswer.bytes⟩, 1) := by
    rw [callCore, call, hconsumer]
    rfl
  obtain ⟨rfl, rfl⟩ := Prod.mk.inj ((hgiven _).symm.trans hasked)
  cases htakes with
  | unreadable hfound => cases hfound.symm.trans hread
  | stored hfound hstores =>
    obtain rfl := Except.ok.inj (hfound.symm.trans hread)
    have hrules := OrchestrationEntry.yieldAll_iff.1 hstores.yields
    rw [← hrules, List.length_map, hstores.resolved.length] at hlength
    subst hlength
    exact ⟨hreachable, _, after, hrun, hstores⟩

end Example

end LocalCloud.Client
