import LocalCloud.Proofs.Client.Building
import LocalCloud.Proofs.Client.CoreCalls
import LocalCloud.Proofs.Message.Endpoint

/-!
# Subscriptions and the event handler

The event handler is followed through the calls that reach it.  A form names the
subscription it asks for, by its notify URI, but the parameters of an unsubscription
name an event type and a subscriber only; so an unsubscription that succeeds takes
every subscription of that type from the subscriber.

Whatever the event handler holds is marked as subscribed.  The converse is certain
for a subscription that is the only one to its event type.  Of two to the same type,
one may stay marked after the other one's unsubscription took both away.
-/

namespace LocalCloud

variable {C H E σ : Type}

/-- What the event handler keeps of a subscription. -/
structure Enrolment where
  eventType : String
  subscriber : Endpoint
  notifyUri : String

namespace Enrolment

/-- Whether both are of one subscriber to one event type, which is all that an
unsubscription tells. -/
def Shares (enrolment other : Enrolment) : Prop :=
  enrolment.eventType = other.eventType ∧ enrolment.subscriber = other.subscriber

/-- What a subscription form asks for. -/
def ofForm? (form : Json.Value) : Option Enrolment := do
  let eventType ← (form.field? "eventType").bind Json.Value.asString?
  let subscriber ← (form.field? "subscriberSystem").bind Endpoint.ofJson?
  let notifyUri ← (form.field? "notifyUri").bind Json.Value.asString?
  some ⟨eventType, subscriber, notifyUri⟩

/-- The event type and the subscriber that the parameters of an unsubscription
name. -/
def ofParams? (params : Params) : Option (String × Endpoint) := do
  let eventType ← params.lookup "event_type"
  let subscriber ← Endpoint.ofParams? params
  some (eventType, subscriber)

end Enrolment

namespace Subscription

def enrolment (subscription : Subscription E) : Enrolment :=
  ⟨subscription.eventType, subscription.subscriber.endpoint, subscription.notifyUri⟩

theorem ofForm?_form (subscription : Subscription E) :
    Enrolment.ofForm? subscription.form.toJson.canonical = some subscription.enrolment := by
  have hfield {key : String} (hfilter : key ≠ "filterMetaData") (hmatch : key ≠ "matchMetaData")
      (hsources : key ≠ "sources") (hstart : key ≠ "startDate") (hend : key ≠ "endDate") :
      subscription.form.toJson.canonical.field? key =
        (Json.Value.object [("eventType", .string subscription.eventType),
          ("notifyUri", .string subscription.notifyUri),
          ("subscriberSystem", subscription.subscriber.toJson)]).canonical.field? key := by
    rw [SubscriptionForm.toJson]
    simp only [List.append_assoc]
    apply Json.Value.field?_canonical_append
    intro field hmem
    simp only [List.mem_append] at hmem
    rcases hmem with hmem | hmem | hmem | hmem | hmem
    · rw [Json.Value.mem_field_fst hmem]
      exact hfilter
    · rw [List.mem_singleton.1 hmem]
      exact hmatch
    · rw [Json.Value.mem_listField_fst hmem]
      exact hsources
    · rw [Json.Value.mem_field_fst hmem]
      exact hstart
    · rw [Json.Value.mem_field_fst hmem]
      exact hend
  rw [Enrolment.ofForm?, hfield (by decide) (by decide) (by decide) (by decide) (by decide),
    hfield (by decide) (by decide) (by decide) (by decide) (by decide),
    hfield (by decide) (by decide) (by decide) (by decide) (by decide)]
  simp [Json.Value.canonical, Json.Value.canonicalFields, Json.Value.field?, Entries.ofList,
    Entries.get?_insert, Json.Value.asString?, Endpoint.ofJson?_toJson, enrolment]

theorem ofParams?_unsubscriptionParams (subscription : Subscription E) :
    Enrolment.ofParams? subscription.unsubscriptionParams =
      some (subscription.eventType, subscription.subscriber.endpoint) := by
  have hsubscriber : Endpoint.ofParams? subscription.unsubscriptionParams =
      some subscription.subscriber.endpoint := by
    rw [unsubscriptionParams, System.unsubscriptionParams,
      Endpoint.ofParams?_cons (by decide) (by decide) (by decide), Endpoint.ofParams?_params]
  have htype : subscription.unsubscriptionParams.lookup "event_type" =
      some subscription.eventType := rfl
  rw [Enrolment.ofParams?, htype, hsubscriber]
  rfl

end Subscription

namespace EventHandler

/-- The enrolments after a call. -/
def step (held : Set Enrolment) (call : CoreCall) : Set Enrolment :=
  match call.outcome, call.service with
  | .ok (), .subscribe =>
    match call.request.json.bind Enrolment.ofForm? with
    | some enrolment => insert enrolment held
    | none => held
  | .ok (), .unsubscribe =>
    match Enrolment.ofParams? call.request.query with
    | some named => {enrolment ∈ held | named ≠ (enrolment.eventType, enrolment.subscriber)}
    | none => held
  | _, _ => held

/-- The enrolments after calls to an event handler that had none. -/
def after (calls : List CoreCall) : Set Enrolment :=
  calls.foldl step ∅

end EventHandler

/-- The bulk operations on subscriptions. -/
inductive EventOperation where
  | subscribeAll
  | unsubscribeAll
deriving DecidableEq

namespace EventOperation

def bulk : EventOperation → Bulk (Subscription E)
  | subscribeAll => .subscribe
  | unsubscribeAll => .unsubscribe

/-- The mark that the operation gives. -/
def up : EventOperation → Bool
  | subscribeAll => true
  | unsubscribeAll => false

def run (operation : EventOperation) (network : Network (StateM σ) C) (client : Client C H E) :
    StateM σ (Report × Client C H E) :=
  match operation with
  | subscribeAll => client.subscribeAll network
  | unsubscribeAll => client.unsubscribeAll network

end EventOperation

namespace Client

/-- The client after a bulk operation that was cut off when it had visited so many
subscriptions, with its calls noted. -/
def visitEvents (network : Network (StateM σ) C) (client : Client C H E)
    (operation : EventOperation) (count : Nat) : StateM (σ × List CoreCall) (Client C H E) := do
  let items ← operation.bulk.visit network client count client.events.items
  return { client with events := ⟨items⟩ }

/-- An operation that visits every subscription is the bulk operation of the
client. -/
theorem run_visitEvents_of_length_le (network : Network (StateM σ) C) (client : Client C H E)
    (operation : EventOperation) {count : Nat} (h : client.events.items.length ≤ count)
    (world : σ) (calls : List CoreCall) :
    ∃ later,
      (client.visitEvents network operation count).run (world, calls) =
        (((operation.run network client).run world).1.2,
          ((operation.run network client).run world).2, later) := by
  obtain ⟨later, hvisit⟩ :=
    operation.bulk.run_visit_of_length_le network client h world calls
  have hclient := congrArg
    (Prod.map (fun items => ({ client with events := ⟨items⟩ } : Client C H E)) id) hvisit
  refine ⟨later, ?_⟩
  cases operation <;> exact hclient

/-- Bulk operations one after the other, each with the number of subscriptions it
gets to visit. -/
def runEvents (network : Network (StateM σ) C) (client : Client C H E)
    (operations : List (EventOperation × Nat)) : StateM (σ × List CoreCall) (Client C H E) :=
  operations.foldlM (fun client operation => client.visitEvents network operation.1 operation.2)
    client

end Client

/-- How the event handler holds subscriptions, as the noted calls tell. -/
def eventMirror (σ E : Type) : Mirror (σ × List CoreCall) (Subscription E) Enrolment where
  isUp := Subscription.isSubscribed
  key := Subscription.enrolment
  Drops := Enrolment.Shares
  drops_self _ := ⟨rfl, rfl⟩
  remote world := EventHandler.after world.2

namespace EventOperation

theorem step_made_ok (operation : EventOperation) (subscription : Subscription E)
    (held : Set Enrolment) :
    EventHandler.step held (operation.bulk.made subscription (.ok ())) =
      (eventMirror σ E).effect operation.up subscription.enrolment held := by
  cases operation with
  | subscribeAll =>
      have hform : ((subscribeAll.bulk.made subscription (.ok ())).request.json.bind
          Enrolment.ofForm?) = some subscription.enrolment := subscription.ofForm?_form
      simp only [EventHandler.step, hform]
      rfl
  | unsubscribeAll =>
      have hparams : Enrolment.ofParams?
          (unsubscribeAll.bulk.made subscription (.ok ())).request.query =
            some (subscription.eventType, subscription.subscriber.endpoint) :=
        subscription.ofParams?_unsubscriptionParams
      simp only [EventHandler.step, hparams]
      ext enrolment
      exact and_congr_right fun _ => not_congr Prod.ext_iff

theorem step_made_error (operation : EventOperation) (subscription : Subscription E)
    (failure : Error) (held : Set Enrolment) :
    EventHandler.step held (operation.bulk.made subscription (.error failure)) = held := by
  rfl

/-- The calls of the bulk operations do to the event handler what belongs to the
marks they give. -/
theorem sets (operation : EventOperation) (network : Network (StateM σ) C)
    (client : Client C H E) :
    (eventMirror σ E).Sets operation.up operation.bulk.change
      (operation.bulk.notedCall network client) := by
  apply Bulk.sets_of_step (fun _ => rfl)
  case hok => exact fun subscription held => operation.step_made_ok subscription held
  case herror =>
    exact fun subscription failure held => operation.step_made_error subscription failure held
  case hreached =>
    intro subscription
    cases operation with
    | subscribeAll => exact (beq_true _).symm
    | unsubscribeAll => exact (beq_false _).symm
  all_goals
    intro subscription
    cases operation <;> rfl

end EventOperation

/-- What holds of a client's subscriptions and of the calls made for them: the
subscriptions are the declared ones, and their marks are as right as they can be. -/
structure FollowsEvents (enrolments : List Enrolment) (items : List (Subscription E))
    (world : σ × List CoreCall) : Prop where
  map_enrolment : items.map Subscription.enrolment = enrolments
  tracks : (eventMirror σ E).Tracks items ((eventMirror σ E).remote world)

section Preservation

variable {network : Network (StateM σ) C} {client : Client C H E} {enrolments : List Enrolment}

/-- One call preserves it, whatever its outcome. -/
theorem FollowsEvents.settle (operation : EventOperation)
    {before rest : List (Subscription E)} {subscription : Subscription E}
    {world : σ × List CoreCall}
    (h : FollowsEvents enrolments (before ++ subscription :: rest) world) :
    FollowsEvents enrolments
      (before ++ operation.bulk.change.settle subscription
        ((operation.bulk.notedCall network client subscription).run world).1 :: rest)
      ((operation.bulk.notedCall network client subscription).run world).2 where
  map_enrolment := by
    have hsame : (operation.bulk.change.settle subscription
        ((operation.bulk.notedCall network client subscription).run world).1).enrolment =
          subscription.enrolment := by
      cases operation <;>
        cases ((Bulk.notedCall _ network client subscription).run world).1 <;> rfl
    rw [← h.map_enrolment, List.map_append, List.map_append, List.map_cons, List.map_cons, hsame]
  tracks := (operation.sets network client).tracks_settle h.tracks

theorem FollowsEvents.visitEvents (operation : EventOperation) (count : Nat)
    {world : σ × List CoreCall} (h : FollowsEvents enrolments client.events.items world) :
    FollowsEvents enrolments
      ((client.visitEvents network operation count).run world).1.events.items
      ((client.visitEvents network operation count).run world).2 :=
  Change.visit_preserves (fun _ _ _ _ hfollows _ => hfollows.settle operation) count h

theorem FollowsEvents.runEvents (operations : List (EventOperation × Nat))
    {world : σ × List CoreCall} (h : FollowsEvents enrolments client.events.items world) :
    FollowsEvents enrolments
      ((client.runEvents network operations).run world).1.events.items
      ((client.runEvents network operations).run world).2 := by
  induction operations generalizing client world with
  | nil => exact h
  | cons operation operations ih => exact ih (h.visitEvents operation.1 operation.2)

end Preservation

/-- The event handler has no subscription when a client starts. -/
theorem Client.StartsWith.followsEvents {client : Client C H E}
    {services : List (ServiceDeclaration H)} {events : List (EventDeclaration E)}
    (h : client.StartsWith services events)
    (huris : (client.events.items.map Subscription.notifyUri).Nodup) (world : σ) :
    FollowsEvents (client.events.items.map Subscription.enrolment) client.events.items
      (world, []) where
  map_enrolment := rfl
  tracks := by
    have hmap : (client.events.items.map Subscription.enrolment).map Enrolment.notifyUri =
        client.events.items.map Subscription.notifyUri := List.map_map
    have hnodup : (client.events.items.map Subscription.enrolment).Nodup := by
      apply List.Nodup.of_map Enrolment.notifyUri
      rw [hmap]
      exact huris
    have hdown : ∀ subscription ∈ client.events.items, subscription.isSubscribed = false := by
      rw [h.events_items, List.forall_mem_map]
      exact fun _ _ => rfl
    exact Mirror.tracks_empty hnodup hdown

/-- Whether some enrolment is delivered to a notify URI. -/
def EventHandler.Serves (held : Set Enrolment) (notifyUri : String) : Prop :=
  ∃ enrolment ∈ held, enrolment.notifyUri = notifyUri

/-- How far subscriptions and event handler agree after calls to it. -/
structure MirrorsEvents (enrolments : List Enrolment) (items : List (Subscription E))
    (calls : List CoreCall) : Prop where
  map_enrolment : items.map Subscription.enrolment = enrolments
  isSubscribed_of_serves : ∀ subscription ∈ items,
    EventHandler.Serves (EventHandler.after calls) subscription.notifyUri →
      subscription.isSubscribed = true
  serves_of_isSubscribed : ∀ subscription ∈ items,
    (∀ other ∈ items, other.eventType = subscription.eventType →
      other.notifyUri = subscription.notifyUri) →
    subscription.isSubscribed = true →
      EventHandler.Serves (EventHandler.after calls) subscription.notifyUri
  /-- The event handler has nothing else. -/
  known : ∀ enrolment ∈ EventHandler.after calls, enrolment ∈ enrolments

theorem FollowsEvents.enrolment_eq {enrolments : List Enrolment} {items : List (Subscription E)}
    {world : σ × List CoreCall} (h : FollowsEvents enrolments items world)
    (huris : (enrolments.map Enrolment.notifyUri).Nodup) {enrolment : Enrolment}
    {subscription : Subscription E} (henrolment : enrolment ∈ items.map Subscription.enrolment)
    (hmem : subscription ∈ items) (huri : enrolment.notifyUri = subscription.notifyUri) :
    enrolment = subscription.enrolment := by
  have hown : subscription.enrolment ∈ items.map Subscription.enrolment :=
    List.mem_map_of_mem hmem
  rw [h.map_enrolment] at henrolment hown
  exact List.inj_on_of_nodup_map huris henrolment hown huri

theorem FollowsEvents.mirrorsEvents {enrolments : List Enrolment} {items : List (Subscription E)}
    {world : σ × List CoreCall} (h : FollowsEvents enrolments items world)
    (huris : (enrolments.map Enrolment.notifyUri).Nodup) :
    MirrorsEvents enrolments items world.2 where
  map_enrolment := h.map_enrolment
  isSubscribed_of_serves := by
    rintro subscription hmem ⟨enrolment, hheld, huri⟩
    have heq := h.enrolment_eq huris (h.tracks.known enrolment hheld) hmem huri
    rw [heq] at hheld
    exact h.tracks.isUp_of_held subscription hmem hheld
  serves_of_isSubscribed := by
    intro subscription hmem hsole hmark
    refine ⟨subscription.enrolment, ?_, rfl⟩
    apply h.tracks.held_of_isUp subscription hmem _ hmark
    intro enrolment henrolment hshares
    obtain ⟨other, hother, rfl⟩ := List.mem_map.1 henrolment
    exact h.enrolment_eq huris henrolment hmem (hsole other hother hshares.1)
  known := by
    rw [← h.map_enrolment]
    exact h.tracks.known

/-- However many bulk operations a client has run, whatever came of their calls: a
subscription that the event handler delivers to is marked as subscribed, and one that
is the only one to its event type is marked in no other case. -/
theorem Client.mirrorsEvents_of_build {config : Config} {files : Files} {consumers : Consumers C}
    {services : List (ServiceDeclaration H)} {events : List (EventDeclaration E)}
    {client : Client C H E}
    (hbuild : Client.build config files consumers services events = .ok client)
    (huris : (client.events.items.map Subscription.notifyUri).Nodup)
    (network : Network (StateM σ) C) (operations : List (EventOperation × Nat)) (world : σ) :
    MirrorsEvents (client.events.items.map Subscription.enrolment)
      ((client.runEvents network operations).run (world, [])).1.events.items
      ((client.runEvents network operations).run (world, [])).2.2 := by
  have hstart : FollowsEvents (client.events.items.map Subscription.enrolment)
      client.events.items (world, []) :=
    (startsWith_of_build hbuild).followsEvents huris world
  have henrolments : ((client.events.items.map Subscription.enrolment).map
      Enrolment.notifyUri).Nodup := by
    rw [List.map_map]
    exact huris
  exact (hstart.runEvents operations).mirrorsEvents henrolments

theorem Client.run_runEvents_cons {network : Network (StateM σ) C} {client next : Client C H E}
    {operation : EventOperation} {count : Nat} {operations : List (EventOperation × Nat)}
    {world later : σ × List CoreCall}
    (h : (client.visitEvents network operation count).run world = (next, later)) :
    (client.runEvents network ((operation, count) :: operations)).run world =
      (next.runEvents network operations).run later := by
  rw [runEvents, List.foldlM_cons, StateT.run_bind, h]
  rfl

/-- A bulk operation on two subscriptions that both need a call. -/
theorem Client.run_visitEvents_pair {network : Network (StateM σ) C} {client : Client C H E}
    {operation : EventOperation} {first second : Subscription E}
    {outcome other : Except Error Unit} {world next later : σ} (calls : List CoreCall)
    (hitems : client.events.items = [first, second])
    (hfirst : operation.bulk.change.isReached first = false)
    (hsecond : operation.bulk.change.isReached second = false)
    (houtcome : (operation.bulk.call network client first).run world = (outcome, next))
    (hother : (operation.bulk.call network client second).run next = (other, later)) :
    (client.visitEvents network operation 2).run (world, calls) =
      ({ client with
          events := ⟨[operation.bulk.change.settle first outcome,
            operation.bulk.change.settle second other]⟩ }, later,
        calls ++ [operation.bulk.made first outcome] ++ [operation.bulk.made second other]) := by
  have hvisit : (operation.bulk.visit network client 2 [first, second]).run (world, calls) =
      ([operation.bulk.change.settle first outcome, operation.bulk.change.settle second other],
        later,
        calls ++ [operation.bulk.made first outcome] ++ [operation.bulk.made second other]) :=
    Bulk.run_visit_cons hfirst houtcome (Bulk.run_visit_cons hsecond hother rfl)
  rw [visitEvents, hitems]
  exact congrArg
    (Prod.map (fun items => ({ client with events := ⟨items⟩ } : Client C H E)) id) hvisit

namespace Shared

open EventOperation (subscribeAll unsubscribeAll)

/-- Subscriptions to one event type, told apart by their identifiers. -/
def event (identifier : String) : EventDeclaration Unit where
  eventType := "temperature"
  callback := ()
  identifier := identifier

def system : System :=
  ⟨"arrowhead_client", "127.0.0.1", 7000, none⟩

def subscription (identifier : String) (isSubscribed : Bool) : Subscription Unit :=
  { (event identifier).subscription system with isSubscribed := isSubscribed }

/-- A client with two of the subscriptions. -/
def client (first second : Bool) : Client Unit Unit Unit where
  config := { secure := false }
  system := system
  consumers := Consumers.builtIn.insert "HTTP" (.custom ())
  events := ⟨[subscription "first" first, subscription "second" second]⟩

/-- An event handler that fails at the fourth call. -/
def network : Network (StateM Nat) Unit where
  http _ := pure (.lost "unused")
  webSocket _ := pure (.lost "unused")
  custom _ _ _ := fun calls => (.ok ⟨if calls = 3 then 500 else 200, "JSON", []⟩, calls + 1)

theorem build_client :
    Client.build { secure := false } ∅ (Consumers.builtIn.insert "HTTP" (.custom ())) []
      [event "first", event "second"] = .ok (client false false) := by
  rfl

section Calls

variable (first second : Bool) (operation : EventOperation) (item : Subscription Unit)

theorem run_call (calls : Nat) :
    (operation.bulk.call network (client first second) item).run calls =
      ((Bulk.service (operation.bulk (E := Unit))).checkStatus
        ⟨if calls = 3 then 500 else 200, "JSON", []⟩, calls + 1) := by
  have hget (service : CoreService) : (client first second).consumers.get
      (service.rule (client first second).config).protocol = .ok (.custom ()) := by
    have hupper : Text.upper (Text.upper "HTTP") = Text.upper "HTTP" := by decide +kernel
    exact Consumers.get_insert_self hupper
  exact Client.run_notifyCore_custom (hget _) _ rfl

theorem run_call_of_ne {calls : Nat} (h : calls ≠ 3) :
    (operation.bulk.call network (client first second) item).run calls = (.ok (), calls + 1) := by
  rw [run_call, if_neg h]
  rfl

theorem exists_run_call_three :
    ∃ failure, (operation.bulk.call network (client first second) item).run 3 =
      (.error failure, 4) := by
  rw [run_call, if_pos rfl]
  exact ⟨_, rfl⟩

end Calls

/-- Both subscriptions are made; then one is ended and the call for the other one
fails. -/
theorem exists_run_runEvents :
    ∃ failure, ((client false false).runEvents network
        [(subscribeAll, 2), (unsubscribeAll, 2)]).run (0, []) =
      (client false true, 4,
        [subscribeAll.bulk.made (subscription "first" false) (.ok ()),
          subscribeAll.bulk.made (subscription "second" false) (.ok ()),
          unsubscribeAll.bulk.made (subscription "first" true) (.ok ()),
          unsubscribeAll.bulk.made (subscription "second" true) (.error failure)]) := by
  have hcall (operation : EventOperation) (marks : Bool) (identifier : String) (calls : Nat)
      (h : calls ≠ 3) : (operation.bulk.call network (client marks marks)
        (subscription identifier marks)).run calls = (.ok (), calls + 1) :=
    run_call_of_ne marks marks operation (subscription identifier marks) h
  obtain ⟨failure, hfailure⟩ :=
    exists_run_call_three true true unsubscribeAll (subscription "second" true)
  have hsubscribe := (client false false).run_visitEvents_pair [] rfl rfl rfl
    (hcall subscribeAll false "first" 0 (by decide))
    (hcall subscribeAll false "second" 1 (by decide))
  have hunsubscribe := (client true true).run_visitEvents_pair
    [subscribeAll.bulk.made (subscription "first" false) (.ok ()),
      subscribeAll.bulk.made (subscription "second" false) (.ok ())] rfl rfl rfl
    (hcall unsubscribeAll true "first" 2 (by decide)) hfailure
  refine ⟨failure, ?_⟩
  rw [Client.run_runEvents_cons hsubscribe]
  exact Client.run_runEvents_cons hunsubscribe

end Shared

open Shared in
/-- The subscriptions to one event type have notify URIs of their own. -/
theorem Client.mirrorsEvents_of_build_shared :
    let left := ((client false false).runEvents network
      [(.subscribeAll, 2), (.unsubscribeAll, 2)]).run (0, [])
    Client.build { secure := false } ∅ (Consumers.builtIn.insert "HTTP" (.custom ())) []
        [event "first", event "second"] = .ok (client false false) ∧
      ((client false false).events.items.map Subscription.notifyUri).Nodup ∧
      MirrorsEvents ((client false false).events.items.map Subscription.enrolment)
        left.1.events.items left.2.2 := by
  have huris : ((client false false).events.items.map Subscription.notifyUri).Nodup := by
    decide +kernel
  exact ⟨build_client, huris, mirrorsEvents_of_build build_client huris network _ 0⟩

open Shared in
/-- A subscription may stay marked when the event handler has nothing of it. -/
theorem Client.exists_isSubscribed_not_serves :
    ∃ left, ((client false false).runEvents network
        [(.subscribeAll, 2), (.unsubscribeAll, 2)]).run (0, []) = left ∧
      Client.build { secure := false } ∅ (Consumers.builtIn.insert "HTTP" (.custom ())) []
        [event "first", event "second"] = .ok (client false false) ∧
      ∃ subscription ∈ left.1.events.items, subscription.isSubscribed = true ∧
        ¬ EventHandler.Serves (EventHandler.after left.2.2) subscription.notifyUri := by
  obtain ⟨failure, hrun⟩ := exists_run_runEvents
  refine ⟨_, hrun, build_client, subscription "second" true,
    List.mem_cons_of_mem _ List.mem_cons_self, rfl, ?_⟩
  rintro ⟨enrolment, hheld, -⟩
  -- The failed call leaves what the one before it left.
  have hlast : enrolment ∈ EventHandler.step
      (EventHandler.step (EventHandler.step ∅
        (EventOperation.subscribeAll.bulk.made (subscription "first" false) (.ok ())))
        (EventOperation.subscribeAll.bulk.made (subscription "second" false) (.ok ())))
      (EventOperation.unsubscribeAll.bulk.made (subscription "first" true) (.ok ())) := hheld
  have heffect (operation : EventOperation) (item : Subscription Unit) (held : Set Enrolment) :
      EventHandler.step held (operation.bulk.made item (.ok ())) =
        (eventMirror Unit Unit).effect operation.up item.enrolment held :=
    operation.step_made_ok item held
  rw [heffect, heffect, heffect] at hlast
  obtain ⟨hmade, hkept⟩ := hlast
  have hshares : (eventMirror Unit Unit).Drops (subscription "first" true).enrolment enrolment := by
    rcases hmade with rfl | rfl | hnone
    · exact ⟨rfl, rfl⟩
    · exact ⟨rfl, rfl⟩
    · exact absurd hnone (Set.notMem_empty _)
  exact hkept hshares

end LocalCloud
