import LocalCloud.Client.Operations
import LocalCloud.Proofs.Provider.Mirror

/-!
# The calls behind bulk operations

Every item of a bulk operation is called for through a core service.  Here the
calls are noted in the order they are made, with what was sent and what came of
it, while the operation runs as it does otherwise; so a core system can be
followed through everything that reaches it.

An operation may be cut off between two calls: then it has visited a first part of
the items.
-/

namespace LocalCloud

variable {α C H E σ : Type}

/-- A call of a core service and what came of it. -/
structure CoreCall where
  service : CoreService
  request : ConsumeRequest
  outcome : Except Error Unit

/-- Calls a core service and notes the call. -/
def Client.noted (network : Network (StateM σ) C) (client : Client C H E) (service : CoreService)
    (request : ConsumeRequest) : StateM (σ × List CoreCall) (Except Error Unit) :=
  fun (world, calls) =>
    let (outcome, world) := (client.notifyCore network service request).run world
    (outcome, world, calls ++ [⟨service, request, outcome⟩])

/-- A consumer that is not built in may stand between a client and the core
services. -/
theorem Client.run_notifyCore_custom {network : Network (StateM σ) C} {client : Client C H E}
    {service : CoreService} {consumer : C}
    (hget : client.consumers.get (service.rule client.config).protocol = .ok (.custom consumer))
    (request : ConsumeRequest) {world later : σ} {answer : Except Error Reply}
    (h : (network.custom consumer (service.rule client.config) request).run world =
      (answer, later)) :
    (client.notifyCore network service request).run world =
      (answer.bind service.checkStatus, later) := by
  rw [notifyCore, callCore, call, hget]
  simp only [Network.consume, StateT.run_bind, h]
  cases answer with
  | error failure => rfl
  | ok reply =>
      change (((service.checkStatus reply).map fun _ => reply).map fun _ => (), later) =
        (service.checkStatus reply, later)
      cases service.checkStatus reply <;> rfl

/-- A bulk operation: which items need a call, and how they are called for. -/
structure Bulk (α : Type) where
  change : Change α
  service : CoreService
  request : α → ConsumeRequest

namespace Bulk

/-- What `Client.registerAll` does. -/
def register : Bulk (ProvidedService H) where
  change := .registered
  service := .register
  request provided := .ofJson provided.registrationForm.toJson.canonical

/-- What `Client.unregisterAll` does. -/
def unregister : Bulk (ProvidedService H) where
  change := .unregistered
  service := .unregister
  request provided := .ofParams provided.unregistrationParams

/-- What `Client.subscribeAll` does. -/
def subscribe : Bulk (Subscription E) where
  change := .activated
  service := .subscribe
  request subscription := .ofJson subscription.form.toJson.canonical

/-- What `Client.unsubscribeAll` does. -/
def unsubscribe : Bulk (Subscription E) where
  change := .ended
  service := .unsubscribe
  request subscription := .ofParams subscription.unsubscriptionParams

def call (bulk : Bulk α) (network : Network (StateM σ) C) (client : Client C H E) (item : α) :
    StateM σ (Except Error Unit) :=
  client.notifyCore network bulk.service (bulk.request item)

/-- What is noted of a call for an item. -/
def made (bulk : Bulk α) (item : α) (outcome : Except Error Unit) : CoreCall :=
  ⟨bulk.service, bulk.request item, outcome⟩

/-- The calls of the operation, noted. -/
def notedCall (bulk : Bulk α) (network : Network (StateM σ) C) (client : Client C H E) (item : α) :
    StateM (σ × List CoreCall) (Except Error Unit) :=
  client.noted network bulk.service (bulk.request item)

theorem run_notedCall (bulk : Bulk α) (network : Network (StateM σ) C) (client : Client C H E)
    (item : α) (world : σ) (calls : List CoreCall) :
    (bulk.notedCall network client item).run (world, calls) =
      (((bulk.call network client item).run world).1, ((bulk.call network client item).run world).2,
        calls ++ [bulk.made item ((bulk.call network client item).run world).1]) :=
  rfl

/-- Noting the calls changes nothing about an operation. -/
theorem run_settled_notedCall (bulk : Bulk α) (network : Network (StateM σ) C)
    (client : Client C H E) (items : List α) (world : σ) (calls : List CoreCall) :
    ∃ later,
      (bulk.change.settled (bulk.notedCall network client) items).run (world, calls) =
        (((bulk.change.settled (bulk.call network client) items).run world).1,
          ((bulk.change.settled (bulk.call network client) items).run world).2, later) := by
  induction items generalizing world calls with
  | nil => exact ⟨calls, rfl⟩
  | cons item items ih =>
      cases hreached : bulk.change.isReached item with
      | true =>
          obtain ⟨later, hlater⟩ := ih world calls
          have hitem := congrArg (Prod.map (item :: ·) id) hlater
          refine ⟨later, ?_⟩
          rw [Change.settled_cons_of_reached hreached, Change.settled_cons_of_reached hreached]
          exact hitem
      | false =>
          obtain ⟨later, hlater⟩ := ih ((bulk.call network client item).run world).2
            (calls ++ [bulk.made item ((bulk.call network client item).run world).1])
          have hitem := congrArg (Prod.map
            (bulk.change.settle item ((bulk.call network client item).run world).1 :: ·) id) hlater
          refine ⟨later, ?_⟩
          rw [Change.settled_cons_of_not_reached hreached,
            Change.settled_cons_of_not_reached hreached]
          exact hitem

/-- Visits the first `count` items and notes the calls. -/
def visit (bulk : Bulk α) (network : Network (StateM σ) C) (client : Client C H E) (count : Nat)
    (items : List α) : StateM (σ × List CoreCall) (List α) :=
  bulk.change.visit (bulk.notedCall network client) count items

/-- An item that needs a call is called for before the others are visited. -/
theorem run_visit_cons {bulk : Bulk α} {network : Network (StateM σ) C} {client : Client C H E}
    {item : α} {rest items : List α} {count : Nat} {world next : σ} {calls : List CoreCall}
    {later : σ × List CoreCall} {outcome : Except Error Unit}
    (hreached : bulk.change.isReached item = false)
    (hcall : (bulk.call network client item).run world = (outcome, next))
    (hrest : (bulk.visit network client count rest).run (next, calls ++ [bulk.made item outcome]) =
      (items, later)) :
    (bulk.visit network client (count + 1) (item :: rest)).run (world, calls) =
      (bulk.change.settle item outcome :: items, later) := by
  have hitem := bulk.run_notedCall network client item world calls
  rw [hcall] at hitem
  have hstep := congrArg (Prod.map (bulk.change.settle item outcome :: ·) id) hrest
  rw [visit, Change.visit, List.take_succ_cons, List.drop_succ_cons,
    Change.settled_cons_of_not_reached hreached]
  simp only [StateT.run_map, StateT.run_bind, hitem]
  exact hstep

/-- An operation that visits every item leaves the items and the world as the bulk
operation does. -/
theorem run_visit_of_length_le (bulk : Bulk α) (network : Network (StateM σ) C)
    (client : Client C H E) {count : Nat} {items : List α} (h : items.length ≤ count) (world : σ)
    (calls : List CoreCall) :
    ∃ later,
      (bulk.visit network client count items).run (world, calls) =
        (((bulk.change.run (bulk.call network client) items).run world).1.1,
          ((bulk.change.run (bulk.call network client) items).run world).2, later) := by
  rw [visit, Change.visit_of_length_le h]
  exact bulk.run_settled_notedCall network client items world calls

/-- What a remote system keeps is followed through the noted calls: when each of
them does to it what belongs to a mark, so do the calls of the operation. -/
theorem sets_of_step {κ : Type} {mirror : Mirror (σ × List CoreCall) α κ} {up : Bool}
    {bulk : Bulk α} {step : Set κ → CoreCall → Set κ}
    (hremote : ∀ world, mirror.remote world = world.2.foldl step ∅)
    (hreached : ∀ item, bulk.change.isReached item = (mirror.isUp item == up))
    (hup : ∀ item, mirror.isUp (bulk.change.reach item) = up)
    (hkey : ∀ item, mirror.key (bulk.change.reach item) = mirror.key item)
    (hok : ∀ item held,
      step held (bulk.made item (.ok ())) = mirror.effect up (mirror.key item) held)
    (herror : ∀ item failure held, step held (bulk.made item (.error failure)) = held)
    (network : Network (StateM σ) C) (client : Client C H E) :
    mirror.Sets up bulk.change (bulk.notedCall network client) where
  isReached := hreached
  isUp_reach := hup
  key_reach := hkey
  remote_ok item world houtcome := by
    obtain ⟨world, calls⟩ := world
    rw [run_notedCall] at houtcome ⊢
    dsimp only at houtcome
    rw [houtcome, hremote, hremote, List.foldl_append, ← hok]
    rfl
  remote_error item world failure houtcome := by
    obtain ⟨world, calls⟩ := world
    rw [run_notedCall] at houtcome ⊢
    dsimp only at houtcome
    rw [houtcome, hremote, hremote, List.foldl_append, List.foldl_cons, herror]
    rfl

end Bulk

end LocalCloud
