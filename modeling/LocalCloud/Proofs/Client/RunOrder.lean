import LocalCloud.Proofs.Client.BulkOperations

/-!
# The order of a run

A run of a client is watched from its first call to its last: the key, the
registrations, the subscriptions, serving, and the teardown, which is about the
items whose calls succeeded before.
-/

namespace LocalCloud

variable {α C H E σ : Type}

/-- What is seen of a run: the calls that reach a consumer, and serving. -/
inductive Occurrence (C H E : Type) where
  | called (call : ConsumerCall C)
  | served (provider : Provider H E) (outcome : Except Error Unit)

namespace Bulk

/-- What is seen of the calls of a bulk operation. -/
def seen (bulk : Bulk α) (client : Client C H E) (consumer : Consumer C)
    (answered : List (α × Except Error Reply)) : List (Occurrence C H E) :=
  (bulk.callsFor client consumer answered).map .called

/-- What one bulk operation brings about for items and another one takes back: `made`
are the calls of the first, one for each item; `undone` are the calls of the second,
one for each item whose first call succeeded; and `left` are the items that could
not be taken back. -/
structure TakenBack (up down : Bulk α) (items : List α)
    (made undone : List (α × Except Error Reply)) (left : List α) : Prop where
  all : made.map Prod.fst = items
  succeeded : undone.map Prod.fst =
    (Change.accepted up.service.outcome made).map up.change.reach
  left : left = Change.refused down.service.outcome undone

theorem takenBack_of_visits (up down : Bulk α) {items settled remaining : List α}
    {made undone : List (α × Except Error Reply)} {report report' : Report}
    (hopposite : ∀ item, down.change.isReached item = !up.change.isReached item)
    (hup : ∀ item, up.change.isReached (up.change.reach item) = true)
    (hdown : ∀ item, down.change.isReached (down.change.reach item) = true)
    (hnone : ∀ item ∈ items, up.change.isReached item = false)
    (hmade : up.change.Visits up.service.outcome items made settled report)
    (hundone : down.change.Visits down.service.outcome settled undone remaining report') :
    TakenBack up down items made undone (remaining.filter up.change.isReached) where
  all := hmade.map_fst_of_none hnone
  succeeded := by
    rw [hundone.map_fst, ← hmade.filter_isReached_of_none hup hnone]
    apply List.filter_congr
    intro item _
    rw [hopposite, Bool.not_not]
  left := by
    rw [← hundone.filter_not_isReached hdown]
    apply List.filter_congr
    intro item _
    rw [hopposite, Bool.not_not]

end Bulk

namespace Client

variable {client : Client C H E} {consumer : Consumer C}

/-- Nothing is provided or subscribed to. -/
structure Idle (client : Client C H E) : Prop where
  services : ∀ provided ∈ client.services.items, provided.isProvided = false
  events : ∀ subscription ∈ client.events.items, subscription.isSubscribed = false

/-- Serving, as it is seen of a client whose consumers are watched. -/
def watchedServe (serve : Client C H E → Provider H E → StateM σ (Except Error Unit)) :
    Client (Consumer C) H E → Provider H E →
      StateM (σ × List (Occurrence C H E)) (Except Error Unit) :=
  fun client provider => noting (.served provider) (serve client.unwatched provider)

theorem exists_shows_serve (serve : Client C H E → Provider H E → StateM σ (Except Error Unit))
    (client : Client C H E) (provider : Provider H E) (world : σ) :
    ∃ outcome later,
      Shows (serve client provider) (watchedServe serve client.watched provider) id world outcome
        later [Occurrence.served provider outcome] := by
  rw [watchedServe, unwatched_watched]
  exact ⟨_, _, .of_noting _ _ world⟩

/-- The key is fetched once if some service is called with tokens and the key is not
known, and not at all otherwise. -/
inductive FetchesKey (consumer : Consumer C) (client : Client C H E) :
    List (Occurrence C H E) → Prop where
  | needed {provided : ProvidedService H} (hmem : provided ∈ client.services.items)
      (hkind : provided.policy.kind = .token) (hunknown : client.authorizationKey = none)
      (answer : Except Error Reply) :
      FetchesKey consumer client [.called (client.coreCall consumer .publicKey .empty answer)]
  | known
      (h : (∀ provided ∈ client.services.items, provided.policy.kind ≠ .token) ∨
        client.authorizationKey ≠ none) :
      FetchesKey consumer client []

theorem exists_shows_bootstrapKey (hhttp : client.consumers.get "HTTP" = .ok consumer)
    (network : Network (StateM σ) C) (world : σ) :
    ∃ fetched key later, client.FetchesKey consumer fetched ∧
      Shows (client.bootstrapKey network) (client.watched.bootstrapKey (network.watched .called))
        watched world { client with authorizationKey := key } later fetched := by
  by_cases hneeded : (client.services.needsKey && client.authorizationKey.isNone) = true
  · obtain ⟨hkind, hunknown⟩ := Bool.and_eq_true_iff.1 hneeded
    obtain ⟨provided, hmem, hkind⟩ := List.any_eq_true.1 hkind
    obtain ⟨answer, later, hfetch⟩ := exists_shows_fetchKey hhttp network
      (Occurrence.called : _ → Occurrence C H E) world
    obtain ⟨key, hkey⟩ := client.exists_keepKey answer
    refine ⟨_, key, later, .needed hmem (beq_iff_eq.1 hkind)
      (Option.isNone_iff_eq_none.1 hunknown) answer, ?_⟩
    rw [bootstrapKey, bootstrapKey, ← hkey]
    refine .ite_pos hneeded hneeded ?_ _ _
    exact hfetch.bind_pure rfl rfl
  · have hknown : (∀ provided ∈ client.services.items, provided.policy.kind ≠ .token) ∨
        client.authorizationKey ≠ none := by
      rw [Bool.and_eq_true, not_and_or] at hneeded
      refine hneeded.imp ?_ ?_
      · intro hnone provided hmem hkind
        exact hnone (List.any_eq_true.2 ⟨provided, hmem, beq_iff_eq.2 hkind⟩)
      · intro hsome hunknown
        exact hsome (Option.isNone_iff_eq_none.2 hunknown)
    refine ⟨[], client.authorizationKey, world, .known hknown, ?_⟩
    rw [bootstrapKey, bootstrapKey]
    exact .ite_neg hneeded hneeded (.of_pure watched world client) _ _

/-- How a run of a client goes in which nothing is provided or subscribed to: what is
seen of it, its result and the client it leaves. -/
inductive RunsInOrder (consumer : Consumer C) (client : Client C H E) :
    List (Occurrence C H E) → Except Error Unit → Client C H E → Prop where
  /-- The provider cannot be wired: nothing is registered. -/
  | unwired {fetched : List (Occurrence C H E)} {failure : Error} {after : Client C H E}
      (hfetched : client.FetchesKey consumer fetched)
      (hprovider : client.provider = .error failure)
      (hservices : after.services = client.services) (hevents : after.events = client.events) :
      RunsInOrder consumer client fetched (.error failure) after
  /-- A registration that is required failed: what was registered is taken back. -/
  | aborted {fetched : List (Occurrence C H E)} {provider : Provider H E} {after : Client C H E}
      {registered unregistered : List (ProvidedService H × Except Error Reply)}
      (hfetched : client.FetchesKey consumer fetched)
      (hprovider : client.provider = .ok provider)
      (hrequired : client.config.failOnRegistrationError = true)
      (hfailed : Change.registered.failures CoreService.register.outcome registered ≠ [])
      (hservices : Bulk.TakenBack .register .unregister client.services.items registered
        unregistered after.services.provided)
      (hevents : after.events = client.events) :
      RunsInOrder consumer client
        (fetched ++ Bulk.register.seen client consumer registered ++
          Bulk.unregister.seen client consumer unregistered)
        (.error (.registration (String.intercalate ", "
          ((Change.registered.failures CoreService.register.outcome registered).map
            fun failed => failed.1 ++ " (" ++ failed.2 ++ ")")))) after
  /-- The client serves, and takes back whatever it registered and subscribed to. -/
  | served {fetched : List (Occurrence C H E)} {provider : Provider H E}
      {outcome : Except Error Unit} {after : Client C H E}
      {registered unregistered : List (ProvidedService H × Except Error Reply)}
      {subscribed unsubscribed : List (Subscription E × Except Error Reply)}
      (hfetched : client.FetchesKey consumer fetched)
      (hprovider : client.provider = .ok provider)
      (hclean : client.config.failOnRegistrationError = true →
        Change.registered.failures CoreService.register.outcome registered = [])
      (hservices : Bulk.TakenBack .register .unregister client.services.items registered
        unregistered after.services.provided)
      (hevents : Bulk.TakenBack .subscribe .unsubscribe client.events.items subscribed
        unsubscribed after.events.subscribed) :
      RunsInOrder consumer client
        (fetched ++ Bulk.register.seen client consumer registered ++
          Bulk.subscribe.seen client consumer subscribed ++ [.served provider outcome] ++
          Bulk.unsubscribe.seen client consumer unsubscribed ++
          Bulk.unregister.seen client consumer unregistered) outcome after

theorem takenBack_services {items settled remaining : List (ProvidedService H)}
    {made undone : List (ProvidedService H × Except Error Reply)} {report report' : Report}
    (hidle : ∀ provided ∈ items, provided.isProvided = false)
    (hmade : Change.registered.Visits CoreService.register.outcome items made settled report)
    (hundone : Change.unregistered.Visits CoreService.unregister.outcome settled undone remaining
      report') :
    Bulk.TakenBack .register .unregister items made undone
      (ProvidedServices.mk remaining).provided :=
  Bulk.takenBack_of_visits .register .unregister (fun _ => rfl) (fun _ => rfl) (fun _ => rfl) hidle
    hmade hundone

theorem takenBack_events {items settled remaining : List (Subscription E)}
    {made undone : List (Subscription E × Except Error Reply)} {report report' : Report}
    (hidle : ∀ subscription ∈ items, subscription.isSubscribed = false)
    (hmade : Change.activated.Visits CoreService.subscribe.outcome items made settled report)
    (hundone : Change.ended.Visits CoreService.unsubscribe.outcome settled undone remaining
      report') :
    Bulk.TakenBack .subscribe .unsubscribe items made undone
      (Subscriptions.mk remaining).subscribed :=
  Bulk.takenBack_of_visits .subscribe .unsubscribe (fun _ => rfl) (fun _ => rfl) (fun _ => rfl)
    hidle hmade hundone

/-- The teardown visits the subscriptions first and then the services. -/
theorem exists_shows_tearDown (hhttp : client.consumers.get "HTTP" = .ok consumer)
    (network : Network (StateM σ) C) (world : σ) :
    ∃ unsubscribed events report unregistered services report' later,
      Change.ended.Visits CoreService.unsubscribe.outcome client.events.items unsubscribed events
        report ∧
      Change.unregistered.Visits CoreService.unregister.outcome client.services.items unregistered
        services report' ∧
      Shows (client.tearDown network)
        (client.watched.tearDown (network.watched (Occurrence.called : _ → Occurrence C H E)))
        watched world { client with events := ⟨events⟩, services := ⟨services⟩ } later
        (Bulk.unsubscribe.seen client consumer unsubscribed ++
          Bulk.unregister.seen client consumer unregistered) := by
  let note : ConsumerCall C → Occurrence C H E := .called
  obtain ⟨unsubscribed, events, report, between, hunsubscribed, hshows⟩ :=
    client.exists_shows_changeEvents hhttp network note world .unsubscribe
  let resting : Client C H E := { client with events := ⟨events⟩ }
  obtain ⟨unregistered, services, report', later, hunregistered, hshows'⟩ :=
    resting.exists_shows_changeServices hhttp network note between .unregister
  exact ⟨unsubscribed, events, report, unregistered, services, report', later, hunsubscribed,
    hunregistered, hshows.bind (hshows'.bind_pure rfl rfl)⟩

section Run

variable (hhttp : client.consumers.get "HTTP" = .ok consumer) (hidle : client.Idle)
  (network : Network (StateM σ) C)
  (serve : Client C H E → Provider H E → StateM σ (Except Error Unit))
include hhttp hidle

theorem exists_shows_runWired {provider : Provider H E} (hprovider : client.provider = .ok provider)
    {fetched : List (Occurrence C H E)} (hfetched : client.FetchesKey consumer fetched)
    (key : Option String) (world : σ) :
    ∃ seen result after later,
      Shows (Client.runWired network serve { client with authorizationKey := key } provider)
        (Client.runWired (network.watched .called) (watchedServe serve)
          { client with authorizationKey := key : Client C H E }.watched provider)
        (Prod.map id watched) world (result, after) later seen ∧
      client.RunsInOrder consumer (fetched ++ seen) result after := by
  let note : ConsumerCall C → Occurrence C H E := .called
  let keyed : Client C H E := { client with authorizationKey := key }
  obtain ⟨registered, services, report, world₁, hregistered, hshows₁⟩ :=
    keyed.exists_shows_changeServices hhttp network note world .register
  have hfailed : report.failed =
      Change.registered.failures CoreService.register.outcome registered := hregistered.failed
  have hclean : report.isClean = true ↔
      Change.registered.failures CoreService.register.outcome registered = [] := by
    rw [Report.isClean, hfailed, List.isEmpty_iff]
  let listed : Client C H E := { keyed with services := ⟨services⟩ }
  by_cases habort : (!report.isClean && client.config.failOnRegistrationError) = true
  · obtain ⟨unregistered, services', report', world₂, hunregistered, hshows₂⟩ :=
      listed.exists_shows_changeServices hhttp network note world₁ .unregister
    refine ⟨Bulk.register.seen client consumer registered ++
      Bulk.unregister.seen client consumer unregistered, .error (registrationFailed report),
      { keyed with services := ⟨services'⟩ }, world₂, ?shows, ?order⟩
    case shows =>
      refine hshows₁.bind (.ite_pos habort habort ?_ _ _)
      exact hshows₂.bind_pure rfl rfl
    case order =>
      rw [Bool.and_eq_true, Bool.not_eq_true'] at habort
      rw [registrationFailed, hfailed, ← List.append_assoc]
      refine .aborted hfetched hprovider habort.2 (fun hnone => ?_)
        (takenBack_services hidle.services hregistered hunregistered) rfl
      exact Bool.false_ne_true (habort.1.symm.trans (hclean.2 hnone))
  · obtain ⟨subscribed, events, _, world₂, hsubscribed, hshows₂⟩ :=
      listed.exists_shows_changeEvents hhttp network note world₁ .subscribe
    let attending : Client C H E := { listed with events := ⟨events⟩ }
    obtain ⟨outcome, world₃, hserve⟩ := exists_shows_serve serve attending provider world₂
    obtain ⟨unsubscribed, events', _, unregistered, services', _, world₄, hunsubscribed,
        hunregistered, hshows₄⟩ :=
      attending.exists_shows_tearDown hhttp network world₃
    refine ⟨Bulk.register.seen client consumer registered ++
        (Bulk.subscribe.seen client consumer subscribed ++ ([.served provider outcome] ++
          (Bulk.unsubscribe.seen client consumer unsubscribed ++
            Bulk.unregister.seen client consumer unregistered))),
      outcome, { attending with events := ⟨events'⟩, services := ⟨services'⟩ }, world₄,
      hshows₁.bind ?shows, ?order⟩
    case shows =>
      refine .ite_neg habort habort ?_ _ _
      exact hshows₂.bind (hserve.bind (hshows₄.bind_pure rfl rfl))
    case order =>
      simp only [← List.append_assoc]
      refine .served hfetched hprovider ?_
        (takenBack_services hidle.services hregistered hunregistered)
        (takenBack_events hidle.events hsubscribed hunsubscribed)
      intro hrequired
      rw [hrequired, Bool.and_true, Bool.not_eq_true', Bool.not_eq_false] at habort
      exact hclean.1 habort

theorem exists_shows_run (world : σ) :
    ∃ seen result after later,
      Shows (client.run network serve)
        (client.watched.run (network.watched .called) (watchedServe serve)) (Prod.map id watched)
        world (result, after) later seen ∧
      client.RunsInOrder consumer seen result after := by
  obtain ⟨fetched, key, world₁, hfetched, hshows₁⟩ :=
    exists_shows_bootstrapKey hhttp network world
  let keyed : Client C H E := { client with authorizationKey := key }
  cases hprovider : client.provider with
  | error failure =>
    have hkeyed : keyed.provider = .error failure := hprovider
    refine ⟨fetched, .error failure, keyed, world₁, hshows₁.bind_pure ?plain ?watched,
      .unwired hfetched hprovider rfl rfl⟩
    case plain => rw [hkeyed]
    case watched =>
      have hwatched : keyed.watched.provider = .error failure := hprovider
      rw [hwatched]
      rfl
  | ok provider =>
    obtain ⟨seen, result, after, later, hshows₂, horder⟩ :=
      exists_shows_runWired hhttp hidle network serve hprovider hfetched key world₁
    refine ⟨fetched ++ seen, result, after, later, hshows₁.bind ?_, horder⟩
    have hkeyed : keyed.provider = .ok provider := hprovider
    have hwatched : keyed.watched.provider = .ok provider := hprovider
    rw [hkeyed, hwatched]
    exact hshows₂

end Run

/-- Whatever comes of its calls and of serving, a run of a client that provides and
subscribes to nothing yet goes in order.  Watching it shows so, and changes neither
its result nor the client and the world that it leaves. -/
theorem runsInOrder_of_idle (hequipped : client.consumers.Equipped) (hidle : client.Idle)
    (network : Network (StateM σ) C)
    (serve : Client C H E → Provider H E → StateM σ (Except Error Unit)) (world : σ) :
    ∃ consumer seen result after later,
      client.consumers.get "HTTP" = .ok consumer ∧
      (client.run network serve).run world = ((result, after), later) ∧
      (client.watched.run (network.watched .called) (watchedServe serve)).run (world, []) =
        ((result, after.watched), later, seen) ∧
      client.RunsInOrder consumer seen result after := by
  obtain ⟨consumer, hhttp⟩ := hequipped.exists_http
  obtain ⟨seen, result, after, later, hshows, horder⟩ :=
    exists_shows_run hhttp hidle network serve world
  exact ⟨consumer, seen, result, after, later, hhttp, hshows.run_action,
    hshows.run_counterpart [], horder⟩

/-- Two services, of which the registry refuses the first one, and a subscription,
which the event handler will not end. -/
theorem runsInOrder_of_idle_two_services :
    let system : System := ⟨"arrowhead_client", "127.0.0.1", 7000, none⟩
    let service (definition : String) : Service :=
      ⟨definition, definition, ⟨"HTTP", "INSECURE", "JSON"⟩, .unrestricted, ∅, none⟩
    let client : Client Unit Unit Unit := {
      config := { secure := false }
      system := system
      consumers := .builtIn
      services := ⟨[.declare (service "echo") system "GET" () .unrestricted,
        .declare (service "time") system "GET" () .unrestricted]⟩
      events := ⟨[.declare "temperature" system () none "1"]⟩ }
    let network : Network (StateM Nat) Unit := {
      http := fun _ => fun calls =>
        (if calls = 0 then .answered 400 [] else if calls = 3 then .lost "refused"
          else .answered 200 [], calls + 1)
      webSocket := fun _ => pure (.lost "unused")
      custom := fun _ _ _ => pure (.error (.transport "unused")) }
    ∃ consumer seen result after later,
      client.consumers.get "HTTP" = .ok consumer ∧
      (client.run network fun _ _ => pure (.ok ())).run 0 = ((result, after), later) ∧
      (client.watched.run (network.watched .called) (watchedServe fun _ _ => pure (.ok ()))).run
          (0, []) =
        ((result, after.watched), later, seen) ∧
      client.RunsInOrder consumer seen result after := by
  intro system service client network
  have hidle : client.Idle := by
    refine ⟨?services, ?events⟩
    case services => simp [client, ProvidedService.declare]
    case events => simp [client, Subscription.declare]
  exact runsInOrder_of_idle .standard hidle network (fun _ _ => pure (.ok ())) 0

end Client

end LocalCloud
