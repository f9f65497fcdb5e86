import LocalCloud.Client.Run
import Mathlib.Tactic.Common

/-!
# Watching a client

To tell what a client sends, its consumers are replaced by ones that note every
call together with its answer, in a log beside the world, and pass it on.  The
client is otherwise the same, and so is everything it does: a watched operation
ends as the operation itself does and adds what it sent to the log.
-/

namespace LocalCloud

variable {C H E σ ω α β : Type}

/-- A call that was handed to a consumer, and the answer. -/
structure ConsumerCall (C : Type) where
  consumer : Consumer C
  rule : OrchestrationRule
  request : ConsumeRequest
  answer : Except Error Reply

/-- An action whose result is noted at the end of a log. -/
def noting (note : α → ω) (action : StateM σ α) : StateM (σ × List ω) α :=
  fun (world, log) =>
    ((action.run world).1, (action.run world).2, log ++ [note (action.run world).1])

/-- An action that leaves the log alone. -/
def unnoted (action : StateM σ α) : StateM (σ × List ω) α :=
  fun (world, log) => ((action.run world).1, (action.run world).2, log)

/-- An action and its watched counterpart, which sees the value of the action as `view`
shows it: in a world both end alike, and what the second adds to the log is `seen`. -/
structure Shows (action : StateM σ α) (counterpart : StateM (σ × List ω) β) (view : α → β)
    (world : σ) (value : α) (later : σ) (seen : List ω) : Prop where
  run_action : action.run world = (value, later)
  run_counterpart : ∀ log, counterpart.run (world, log) = (view value, later, log ++ seen)

namespace Shows

variable {γ δ : Type} {action : StateM σ α} {counterpart : StateM (σ × List ω) β} {view : α → β}
  {world between later : σ} {value : α} {seen seen' : List ω}

theorem of_pure (view : α → β) (world : σ) (value : α) :
    Shows (pure value) (pure (view value) : StateM (σ × List ω) β) view world value world [] where
  run_action := rfl
  run_counterpart log := by
    rw [List.append_nil]
    rfl

theorem of_noting (note : α → ω) (action : StateM σ α) (world : σ) :
    Shows action (noting note action) id world (action.run world).1 (action.run world).2
      [note (action.run world).1] where
  run_action := rfl
  run_counterpart _ := rfl

/-- One action after another shows what each of them shows. -/
theorem bind {next : α → StateM σ γ} {next' : β → StateM (σ × List ω) δ} {view' : γ → δ}
    {result : γ} (hfirst : Shows action counterpart view world value between seen)
    (hnext : Shows (next value) (next' (view value)) view' between result later seen') :
    Shows (action >>= next) (counterpart >>= next') view' world result later (seen ++ seen') where
  run_action := by
    rw [StateT.run_bind, hfirst.run_action]
    exact hnext.run_action
  run_counterpart log := by
    rw [StateT.run_bind, hfirst.run_counterpart, ← List.append_assoc]
    exact hnext.run_counterpart (log ++ seen)

/-- Going on without an action shows no more. -/
theorem bind_pure {next : α → StateM σ γ} {next' : β → StateM (σ × List ω) δ} {view' : γ → δ}
    {result : γ} (h : Shows action counterpart view world value later seen)
    (hnext : next value = pure result) (hnext' : next' (view value) = pure (view' result)) :
    Shows (action >>= next) (counterpart >>= next') view' world result later seen := by
  rw [← List.append_nil seen]
  apply h.bind
  rw [hnext, hnext']
  exact .of_pure view' later result

/-- A function of the value shows no more. -/
theorem map {next : α → γ} {next' : β → δ} {view' : γ → δ}
    (h : Shows action counterpart view world value later seen)
    (hview : next' (view value) = view' (next value)) :
    Shows (next <$> action) (next' <$> counterpart) view' world (next value) later seen := by
  rw [map_eq_pure_bind, map_eq_pure_bind]
  exact h.bind_pure rfl (congrArg pure hview)

section

variable {condition condition' : Prop} [Decidable condition] [Decidable condition']

theorem ite_pos (h : condition) (h' : condition')
    (hshows : Shows action counterpart view world value later seen) (other : StateM σ α)
    (other' : StateM (σ × List ω) β) :
    Shows (if condition then action else other) (if condition' then counterpart else other') view
      world value later seen := by
  rw [if_pos h, if_pos h']
  exact hshows

theorem ite_neg (h : ¬ condition) (h' : ¬ condition')
    (hshows : Shows action counterpart view world value later seen) (other : StateM σ α)
    (other' : StateM (σ × List ω) β) :
    Shows (if condition then other else action) (if condition' then other' else counterpart) view
      world value later seen := by
  rw [if_neg h, if_neg h']
  exact hshows

end

end Shows

/-- A network on which every call is made by a consumer of another one, and noted. -/
def Network.watched (network : Network (StateM σ) C) (note : ConsumerCall C → ω) :
    Network (StateM (σ × List ω)) (Consumer C) where
  http call := unnoted (network.http call)
  webSocket call := unnoted (network.webSocket call)
  custom consumer rule request :=
    noting (fun answer => note ⟨consumer, rule, request, answer⟩)
      (network.consume consumer rule request)

namespace Consumers

/-- The consumers, each in the custody of one that is not built in. -/
def watched (consumers : Consumers C) : Consumers (Consumer C) :=
  ⟨consumers.byProtocol.mapValues .custom⟩

/-- The consumers that were there before they were watched. -/
def unwatched (consumers : Consumers (Consumer C)) : Consumers C :=
  ⟨consumers.byProtocol.mapValues fun
    | .custom consumer => consumer
    | .http => .http
    | .webSocket => .webSocket⟩

theorem unwatched_watched (consumers : Consumers C) : consumers.watched.unwatched = consumers := by
  obtain ⟨⟨entries, ascending⟩⟩ := consumers
  simp [watched, unwatched, Dict.mapValues, Function.comp_def]

theorem get_watched {consumers : Consumers C} {protocol : String} {consumer : Consumer C}
    (h : consumers.get protocol = .ok consumer) :
    consumers.watched.get protocol = .ok (.custom consumer) := by
  rw [get, Error.ofOption_eq_ok_iff] at h ⊢
  rw [watched, Dict.get?_mapValues, h]
  rfl

/-- The consumers a client is built with: the built-in ones, and others in their
place or beside them. -/
inductive Equipped : Consumers C → Prop where
  | standard : Equipped builtIn
  | extended {consumers : Consumers C} (h : Equipped consumers) (protocol : String)
      (consumer : Consumer C) : Equipped (consumers.insert protocol consumer)

/-- Some consumer makes the calls over HTTP. -/
theorem Equipped.exists_http {consumers : Consumers C} (h : consumers.Equipped) :
    ∃ consumer, consumers.get "HTTP" = .ok consumer := by
  induction h with
  | standard =>
    have hentries : (builtIn : Consumers C).byProtocol =
        ((∅ : Dict (Consumer C)).insert "HTTP" .http).insert "WS" .webSocket := rfl
    refine ⟨.http, ?_⟩
    rw [get, Error.ofOption_eq_ok_iff, hentries, Dict.get?_insert, if_neg (by decide +kernel),
      Dict.get?_insert, if_pos (by decide +kernel)]
  | @extended consumers h protocol consumer ih =>
    obtain ⟨before, hbefore⟩ := ih
    by_cases hname : Text.upper "HTTP" = Text.upper protocol
    · exact ⟨consumer, get_insert_self hname⟩
    · refine ⟨before, ?_⟩
      rw [get, Error.ofOption_eq_ok_iff] at hbefore ⊢
      rw [Consumers.insert, Dict.get?_insert, if_neg hname, hbefore]

end Consumers

namespace CoreService

/-- Core services are called over HTTP. -/
theorem protocol_rule (service : CoreService) (config : Config) :
    (service.rule config).protocol = "HTTP" := by
  have hupper : Text.upper "HTTP" = "HTTP" := by decide +kernel
  exact hupper

/-- The reply in an answer, if its status is one of success. -/
def accept (service : CoreService) (answer : Except Error Reply) : Except Error Reply :=
  answer.bind fun reply => (service.checkStatus reply).map fun () => reply

/-- What an answer tells about the request. -/
def outcome (service : CoreService) (answer : Except Error Reply) : Except Error Unit :=
  answer.bind service.checkStatus

theorem map_accept (service : CoreService) (answer : Except Error Reply) :
    (service.accept answer).map (fun _ => ()) = service.outcome answer := by
  cases answer with
  | error failure => rfl
  | ok reply =>
    rw [accept, outcome, Except.bind, Except.bind]
    cases service.checkStatus reply <;> rfl

end CoreService

namespace Client

section

variable {m : Type → Type} [Monad m] [LawfulMonad m]

/-- A core service is called once, through its own rule. -/
theorem callCore_eq (network : Network m C) (client : Client C H E) (service : CoreService)
    (request : ConsumeRequest) :
    client.callCore network service request =
      service.accept <$> client.call network (service.rule client.config) request := by
  rw [callCore, map_eq_pure_bind]
  congr 1
  funext answer
  cases answer <;> rfl

theorem notifyCore_eq (network : Network m C) (client : Client C H E) (service : CoreService)
    (request : ConsumeRequest) :
    client.notifyCore network service request =
      service.outcome <$> client.call network (service.rule client.config) request := by
  rw [notifyCore, callCore_eq, bind_pure_comp, Functor.map_map]
  congr 1
  funext answer
  exact service.map_accept answer

/-- What becomes of an answer to the question for the key. -/
def keepKey (client : Client C H E) (answer : Except Error Reply) :
    Except Error String × Client C H E :=
  match (CoreService.publicKey.accept answer).bind
      fun reply => Certificate.publicKeyPem reply.text with
  | .error failure => (.error failure, client)
  | .ok pem => (.ok pem, { client with authorizationKey := some pem })

theorem fetchKey_eq (network : Network m C) (client : Client C H E) :
    client.fetchKey network =
      client.keepKey <$> client.call network (CoreService.publicKey.rule client.config) .empty := by
  rw [fetchKey, callCore_eq, bind_map_left, map_eq_pure_bind]
  congr 1
  funext answer
  rw [keepKey]
  cases (CoreService.publicKey.accept answer).bind
    fun reply => Certificate.publicKeyPem reply.text <;> rfl

end

/-- The client, with its consumers watched. -/
def watched (client : Client C H E) : Client (Consumer C) H E :=
  { client with consumers := client.consumers.watched }

def unwatched (client : Client (Consumer C) H E) : Client C H E :=
  { client with consumers := client.consumers.unwatched }

@[simp]
theorem unwatched_watched (client : Client C H E) : client.watched.unwatched = client := by
  rw [unwatched, watched, Consumers.unwatched_watched]

/-- A watched call is the call, noted. -/
theorem call_watched {client : Client C H E} {rule : OrchestrationRule} {consumer : Consumer C}
    (hconsumer : client.consumers.get rule.protocol = .ok consumer)
    (network : Network (StateM σ) C) (note : ConsumerCall C → ω) (request : ConsumeRequest) :
    client.watched.call (network.watched note) rule request =
      noting (fun answer => note ⟨consumer, rule, request, answer⟩)
        (client.call network rule request) := by
  have hwatched : client.watched.consumers.get rule.protocol = .ok (.custom consumer) :=
    Consumers.get_watched hconsumer
  rw [call, hwatched, call, hconsumer]
  rfl

/-- The call of a core service that a client makes with some request. -/
def coreCall (client : Client C H E) (consumer : Consumer C) (service : CoreService)
    (request : ConsumeRequest) (answer : Except Error Reply) : ConsumerCall C :=
  ⟨consumer, service.rule client.config, request, answer⟩

section

variable {client : Client C H E} {consumer : Consumer C}

/-- A core service is called with one request, and nothing else is sent. -/
theorem exists_shows_callCore (hhttp : client.consumers.get "HTTP" = .ok consumer)
    (network : Network (StateM σ) C) (note : ConsumerCall C → ω) (service : CoreService)
    (request : ConsumeRequest) (world : σ) :
    ∃ answer later,
      Shows (client.call network (service.rule client.config) request)
        (client.watched.call (network.watched note) (service.rule client.config) request) id world
        answer later [note (client.coreCall consumer service request answer)] := by
  rw [← CoreService.protocol_rule service client.config] at hhttp
  rw [call_watched hhttp]
  exact ⟨_, _, .of_noting _ _ world⟩

end

theorem keepKey_watched (client : Client C H E) (answer : Except Error Reply) :
    client.watched.keepKey answer =
      ((client.keepKey answer).1, (client.keepKey answer).2.watched) := by
  rw [keepKey, keepKey]
  cases (CoreService.publicKey.accept answer).bind
    fun reply => Certificate.publicKeyPem reply.text <;> rfl

/-- Nothing but the key changes. -/
theorem exists_keepKey (client : Client C H E) (answer : Except Error Reply) :
    ∃ key, (client.keepKey answer).2 = { client with authorizationKey := key } := by
  rw [keepKey]
  cases (CoreService.publicKey.accept answer).bind
      fun reply => Certificate.publicKeyPem reply.text with
  | error failure => exact ⟨client.authorizationKey, rfl⟩
  | ok pem => exact ⟨some pem, rfl⟩

theorem exists_shows_fetchKey {client : Client C H E} {consumer : Consumer C}
    (hhttp : client.consumers.get "HTTP" = .ok consumer) (network : Network (StateM σ) C)
    (note : ConsumerCall C → ω) (world : σ) :
    ∃ answer later,
      Shows (client.fetchKey network) (client.watched.fetchKey (network.watched note))
        (Prod.map id watched) world (client.keepKey answer) later
        [note (client.coreCall consumer .publicKey .empty answer)] := by
  obtain ⟨answer, later, hshows⟩ :=
    exists_shows_callCore hhttp network note .publicKey .empty world
  refine ⟨answer, later, ?_⟩
  rw [fetchKey_eq, fetchKey_eq]
  exact hshows.map (client.keepKey_watched answer)

end Client

end LocalCloud
