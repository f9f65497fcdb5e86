import LocalCloud.Proofs.Client.Building
import LocalCloud.Proofs.Client.CoreCalls
import LocalCloud.Proofs.Message.Endpoint

/-!
# Provided services and the service registry

The service registry is followed through the calls that reach it: a registration
that succeeds adds the entry that its form names, an unregistration that succeeds
removes the entry that its parameters name, and nothing else changes it.  Form and
parameters name the same entry, and no two services of a client share one, so the
registry holds exactly the services that are marked as provided.
-/

namespace LocalCloud

variable {C H E σ : Type}

/-- What tells the entries of the service registry apart. -/
structure Listing where
  definition : String
  provider : Endpoint
deriving DecidableEq

namespace Listing

/-- The entry that a registration form names. -/
def ofForm? (form : Json.Value) : Option Listing := do
  let definition ← (form.field? "serviceDefinition").bind Json.Value.asString?
  let provider ← (form.field? "providerSystem").bind Endpoint.ofJson?
  some ⟨definition, provider⟩

/-- The entry that the parameters of an unregistration name. -/
def ofParams? (params : Params) : Option Listing := do
  let definition ← params.lookup "service_definition"
  let provider ← Endpoint.ofParams? params
  some ⟨definition, provider⟩

end Listing

namespace ProvidedService

def listing (provided : ProvidedService H) : Listing :=
  ⟨provided.definition, provided.provider.endpoint⟩

theorem ofForm?_registrationForm (provided : ProvidedService H) :
    Listing.ofForm? provided.registrationForm.toJson.canonical = some provided.listing := by
  have hfield {key : String} (hmetadata : key ≠ "metadata") (hversion : key ≠ "version")
      (hend : key ≠ "endOfValidity") :
      provided.registrationForm.toJson.canonical.field? key =
        (Json.Value.object [("serviceDefinition", .string provided.definition),
          ("serviceUri", .string provided.service.uri),
          ("interfaces", .ofStrings [provided.service.interface.toString]),
          ("providerSystem", provided.provider.toJson),
          ("secure", .string provided.service.policy.name)]).canonical.field? key := by
    rw [RegistrationForm.toJson, List.append_assoc, List.append_assoc]
    apply Json.Value.field?_canonical_append
    intro field hmem
    rw [List.mem_append, List.mem_append] at hmem
    rcases hmem with hmem | hmem | hmem
    · rw [Json.Value.mem_textsField_fst hmem]
      exact hmetadata
    · rw [Json.Value.mem_field_fst hmem]
      exact hversion
    · rw [Json.Value.mem_field_fst hmem]
      exact hend
  rw [Listing.ofForm?, hfield (by decide) (by decide) (by decide),
    hfield (by decide) (by decide) (by decide)]
  simp [Json.Value.canonical, Json.Value.canonicalFields, Json.Value.field?, Entries.ofList,
    Entries.get?_insert, Json.Value.asString?, Endpoint.ofJson?_toJson, listing]

theorem ofParams?_unregistrationParams (provided : ProvidedService H) :
    Listing.ofParams? provided.unregistrationParams = some provided.listing := by
  have hprovider : Endpoint.ofParams? provided.unregistrationParams =
      some provided.provider.endpoint := by
    rw [unregistrationParams, Service.unregistrationParams,
      Endpoint.ofParams?_cons (by decide) (by decide) (by decide), Endpoint.ofParams?_params]
  have hdefinition : provided.unregistrationParams.lookup "service_definition" =
      some provided.definition := rfl
  rw [Listing.ofParams?, hdefinition, hprovider]
  rfl

end ProvidedService

namespace ServiceRegistry

/-- The entry that a call is about. -/
def listing? (call : CoreCall) : Option Listing :=
  match call.service with
  | .register => call.request.json.bind Listing.ofForm?
  | .unregister => Listing.ofParams? call.request.query
  | _ => none

/-- The entries after a call. -/
def step (held : Set Listing) (call : CoreCall) : Set Listing :=
  match call.outcome, listing? call with
  | .ok (), some listing =>
    if call.service = .register then insert listing held else held \ {listing}
  | _, _ => held

/-- The entries after calls to a registry that was empty. -/
def after (calls : List CoreCall) : Set Listing :=
  calls.foldl step ∅

/-- A call that the registry can use: for an entry that is missing, or against one
that is there. -/
def Due (held : Set Listing) (call : CoreCall) : Prop :=
  ∃ listing, listing? call = some listing ∧
    (call.service = .register ∧ listing ∉ held ∨ call.service = .unregister ∧ listing ∈ held)

/-- Every call was due when it was made. -/
def AllDue (calls : List CoreCall) : Prop :=
  ∀ earlier call later, calls = earlier ++ call :: later → Due (after earlier) call

theorem AllDue.append_singleton {calls : List CoreCall} {call : CoreCall} (h : AllDue calls)
    (hcall : Due (after calls) call) : AllDue (calls ++ [call]) := by
  intro earlier made later hsplit
  rcases List.eq_nil_or_concat later with rfl | ⟨later, last, rfl⟩
  · obtain ⟨rfl, hlast⟩ := List.append_inj' hsplit rfl
    obtain rfl := List.singleton_injective hlast
    exact hcall
  · rw [List.concat_eq_append, ← List.cons_append, ← List.append_assoc] at hsplit
    obtain ⟨hinit, -⟩ := List.append_inj' hsplit rfl
    exact h earlier made later hinit

end ServiceRegistry

/-- The bulk operations on provided services. -/
inductive ServiceOperation where
  | registerAll
  | unregisterAll
deriving DecidableEq

namespace ServiceOperation

def bulk : ServiceOperation → Bulk (ProvidedService H)
  | registerAll => .register
  | unregisterAll => .unregister

/-- The mark that the operation gives. -/
def up : ServiceOperation → Bool
  | registerAll => true
  | unregisterAll => false

def run (operation : ServiceOperation) (network : Network (StateM σ) C) (client : Client C H E) :
    StateM σ (Report × Client C H E) :=
  match operation with
  | registerAll => client.registerAll network
  | unregisterAll => client.unregisterAll network

end ServiceOperation

namespace Client

/-- The client after a bulk operation that was cut off when it had visited so many
services, with its calls noted. -/
def visitServices (network : Network (StateM σ) C) (client : Client C H E)
    (operation : ServiceOperation) (count : Nat) : StateM (σ × List CoreCall) (Client C H E) := do
  let items ← operation.bulk.visit network client count client.services.items
  return { client with services := ⟨items⟩ }

/-- An operation that visits every service is the bulk operation of the client. -/
theorem run_visitServices_of_length_le (network : Network (StateM σ) C) (client : Client C H E)
    (operation : ServiceOperation) {count : Nat} (h : client.services.items.length ≤ count)
    (world : σ) (calls : List CoreCall) :
    ∃ later,
      (client.visitServices network operation count).run (world, calls) =
        (((operation.run network client).run world).1.2,
          ((operation.run network client).run world).2, later) := by
  obtain ⟨later, hvisit⟩ :=
    operation.bulk.run_visit_of_length_le network client h world calls
  have hclient := congrArg
    (Prod.map (fun items => ({ client with services := ⟨items⟩ } : Client C H E)) id) hvisit
  refine ⟨later, ?_⟩
  cases operation <;> exact hclient

end Client

/-- How the service registry holds provided services, as the noted calls tell. -/
def registryMirror (σ H : Type) : Mirror (σ × List CoreCall) (ProvidedService H) Listing where
  isUp := ProvidedService.isProvided
  key := ProvidedService.listing
  Drops := Eq
  drops_self _ := rfl
  remote world := ServiceRegistry.after world.2

namespace ServiceOperation

theorem listing?_made (operation : ServiceOperation) (provided : ProvidedService H)
    (outcome : Except Error Unit) :
    ServiceRegistry.listing? (operation.bulk.made provided outcome) = some provided.listing := by
  cases operation with
  | registerAll => exact provided.ofForm?_registrationForm
  | unregisterAll => exact provided.ofParams?_unregistrationParams

theorem step_made_ok (operation : ServiceOperation) (provided : ProvidedService H)
    (held : Set Listing) :
    ServiceRegistry.step held (operation.bulk.made provided (.ok ())) =
      (registryMirror σ H).effect operation.up provided.listing held := by
  have hlisting := operation.listing?_made provided (.ok ())
  rw [ServiceRegistry.step, hlisting]
  cases operation with
  | registerAll => rfl
  | unregisterAll =>
      ext listing
      exact and_congr_right fun _ => not_congr eq_comm

theorem step_made_error (operation : ServiceOperation) (provided : ProvidedService H)
    (failure : Error) (held : Set Listing) :
    ServiceRegistry.step held (operation.bulk.made provided (.error failure)) = held := by
  rfl

/-- The calls of the bulk operations do to the registry what belongs to the marks
they give. -/
theorem sets (operation : ServiceOperation) (network : Network (StateM σ) C)
    (client : Client C H E) :
    (registryMirror σ H).Sets operation.up operation.bulk.change
      (operation.bulk.notedCall network client) := by
  apply Bulk.sets_of_step (fun _ => rfl)
  case hok => exact fun provided held => operation.step_made_ok provided held
  case herror => exact fun provided failure held => operation.step_made_error provided failure held
  case hreached =>
    intro provided
    cases operation with
    | registerAll => exact (beq_true _).symm
    | unregisterAll => exact (beq_false _).symm
  all_goals
    intro provided
    cases operation <;> rfl

/-- The bulk operations call for entries that are missing, and against entries that
are there. -/
theorem due_made (operation : ServiceOperation) {items : List (ProvidedService H)}
    {provided : ProvidedService H} {held : Set Listing}
    (htracks : (registryMirror σ H).Tracks items held) (hmem : provided ∈ items)
    (hreached : operation.bulk.change.isReached provided = false) (outcome : Except Error Unit) :
    ServiceRegistry.Due held (operation.bulk.made provided outcome) := by
  refine ⟨provided.listing, operation.listing?_made provided outcome, ?_⟩
  cases operation with
  | registerAll =>
      refine .inl ⟨rfl, ?_⟩
      intro hheld
      have hmark : provided.isProvided = true := htracks.isUp_of_held provided hmem hheld
      exact Bool.false_ne_true (hreached.symm.trans hmark)
  | unregisterAll =>
      have hmark : provided.isProvided = true := by
        rw [← Bool.not_eq_false']
        exact hreached
      exact .inr ⟨rfl, htracks.held_of_isUp provided hmem (fun _ _ heq => heq) hmark⟩

end ServiceOperation

/-- What holds of a client's services and of the calls made for them: the services
are the declared ones, their marks are right, and no call was made in vain. -/
structure FollowsRegistry (definitions : List String) (items : List (ProvidedService H))
    (world : σ × List CoreCall) : Prop where
  map_definition : items.map ProvidedService.definition = definitions
  tracks : (registryMirror σ H).Tracks items ((registryMirror σ H).remote world)
  allDue : ServiceRegistry.AllDue world.2

section Preservation

variable {network : Network (StateM σ) C} {client : Client C H E} {definitions : List String}

/-- One call preserves it, whatever its outcome. -/
theorem FollowsRegistry.settle (operation : ServiceOperation)
    {before rest : List (ProvidedService H)} {provided : ProvidedService H}
    {world : σ × List CoreCall} (h : FollowsRegistry definitions (before ++ provided :: rest) world)
    (hreached : operation.bulk.change.isReached provided = false) :
    FollowsRegistry definitions
      (before ++ operation.bulk.change.settle provided
        ((operation.bulk.notedCall network client provided).run world).1 :: rest)
      ((operation.bulk.notedCall network client provided).run world).2 where
  map_definition := by
    have hsame : (operation.bulk.change.settle provided
        ((operation.bulk.notedCall network client provided).run world).1).definition =
          provided.definition := by
      cases operation <;> cases ((Bulk.notedCall _ network client provided).run world).1 <;> rfl
    rw [← h.map_definition, List.map_append, List.map_append, List.map_cons, List.map_cons, hsame]
  tracks := (operation.sets network client).tracks_settle h.tracks
  allDue := by
    obtain ⟨world, calls⟩ := world
    have hmem : provided ∈ before ++ provided :: rest :=
      List.mem_append_right _ List.mem_cons_self
    exact h.allDue.append_singleton (operation.due_made h.tracks hmem hreached _)

theorem FollowsRegistry.visitServices (operation : ServiceOperation) (count : Nat)
    {world : σ × List CoreCall} (h : FollowsRegistry definitions client.services.items world) :
    FollowsRegistry definitions
      ((client.visitServices network operation count).run world).1.services.items
      ((client.visitServices network operation count).run world).2 :=
  Change.visit_preserves
    (fun _ _ _ _ hfollows hreached => hfollows.settle operation hreached) count h

end Preservation

end LocalCloud
