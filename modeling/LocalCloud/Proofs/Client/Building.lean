import LocalCloud.Client.Basic

/-!
# Clients as they are built

A client starts with what was declared for it: services under definitions of their
own, none of them registered, and subscriptions, none of them made.  Building adds
the declarations one after the other, and each addition preserves this.
-/

namespace LocalCloud

variable {C H E : Type}

/-- The subscription that is declared. -/
def EventDeclaration.subscription (declared : EventDeclaration E) (subscriber : System) :
    Subscription E :=
  .declare declared.eventType subscriber declared.callback declared.metadata declared.identifier

namespace Client

/-- A client that has been given declarations and has done nothing yet. -/
structure StartsWith (services : List (ServiceDeclaration H)) (events : List (EventDeclaration E))
    (client : Client C H E) : Prop where
  map_definition :
    client.services.items.map ProvidedService.definition = services.map (·.service.definition)
  nodup : (services.map (·.service.definition)).Nodup
  isProvided : ∀ provided ∈ client.services.items, provided.isProvided = false
  events_items : client.events.items = events.map (·.subscription client.system)

section

variable {services : List (ServiceDeclaration H)} {events : List (EventDeclaration E)}
  {client built : Client C H E}

/-- A service is added when its policy can be compiled and its definition is new. -/
theorem addService_eq_ok_iff {declared : ServiceDeclaration H} :
    client.addService declared = .ok built ↔
      ∃ policy, AccessPolicy.ofService declared.service client.providerKey = .ok policy ∧
        declared.service.definition ∉ client.services.items.map ProvidedService.definition ∧
        built = { client with
          services := ⟨client.services.items ++ [.declare declared.service client.system
            declared.method declared.handler policy]⟩ } := by
  rw [addService, Error.bind_eq_ok_iff]
  apply exists_congr
  intro policy
  rw [Error.bind_eq_ok_iff]
  apply and_congr_right
  intro _
  constructor
  · rintro ⟨added, hinsert, hbuilt⟩
    rw [ProvidedServices.insert_eq_ok_iff] at hinsert
    obtain ⟨hnew, rfl⟩ := hinsert
    exact ⟨hnew, (Except.ok.inj hbuilt).symm⟩
  · rintro ⟨hnew, rfl⟩
    exact ⟨_, ProvidedServices.insert_eq_ok_iff.2 ⟨hnew, rfl⟩, rfl⟩

theorem StartsWith.addService {declared : ServiceDeclaration H}
    (h : client.StartsWith services events) (hadd : client.addService declared = .ok built) :
    built.StartsWith (services ++ [declared]) events := by
  rw [addService_eq_ok_iff, h.map_definition] at hadd
  obtain ⟨policy, -, hnew, rfl⟩ := hadd
  constructor
  · rw [List.map_append, List.map_append, h.map_definition]
    rfl
  · rw [List.map_append, List.nodup_append]
    refine ⟨h.nodup, by simp, ?_⟩
    intro definition hmem other hother heq
    rw [List.map_singleton, List.mem_singleton] at hother
    rw [heq, hother] at hmem
    exact hnew hmem
  · intro provided hmem
    rw [List.mem_append, List.mem_singleton] at hmem
    rcases hmem with hmem | rfl
    · exact h.isProvided provided hmem
    · rfl
  · exact h.events_items

theorem StartsWith.addServices {declared : List (ServiceDeclaration H)}
    (h : client.StartsWith services events)
    (hadd : declared.foldlM Client.addService client = .ok built) :
    built.StartsWith (services ++ declared) events := by
  induction declared generalizing client services with
  | nil =>
      obtain rfl := Except.ok.inj hadd
      rw [List.append_nil]
      exact h
  | cons first declared ih =>
      rw [List.foldlM_cons, Error.bind_eq_ok_iff] at hadd
      obtain ⟨next, hnext, hadd⟩ := hadd
      rw [← List.singleton_append, ← List.append_assoc]
      exact ih (h.addService hnext) hadd

theorem StartsWith.addEvent {declared : EventDeclaration E}
    (h : client.StartsWith services events) :
    (client.addEvent declared).StartsWith services (events ++ [declared]) where
  map_definition := h.map_definition
  nodup := h.nodup
  isProvided := h.isProvided
  events_items := by
    have hitems : (client.addEvent declared).events.items =
        client.events.items ++ [declared.subscription client.system] := rfl
    rw [hitems, h.events_items, List.map_append]
    rfl

theorem StartsWith.addEvents {declared : List (EventDeclaration E)}
    (h : client.StartsWith services events) :
    (declared.foldl Client.addEvent client).StartsWith services (events ++ declared) := by
  induction declared generalizing client events with
  | nil =>
      rw [List.append_nil]
      exact h
  | cons first declared ih =>
      rw [← List.singleton_append, ← List.append_assoc]
      exact ih h.addEvent

theorem startsWith_of_build {config : Config} {files : Files} {consumers : Consumers C}
    (hbuild : Client.build config files consumers services events = .ok built) :
    built.StartsWith services events := by
  simp only [build, Error.bind_eq_ok_iff] at hbuild
  obtain ⟨system, -, -, -, providerKey, -, authorizationKey, -, client, hadd, hbuilt⟩ := hbuild
  obtain rfl := Except.ok.inj hbuilt
  have hempty : StartsWith (H := H) (E := E) [] []
      ⟨config, system, consumers, .empty, .empty, .empty, providerKey, authorizationKey⟩ :=
    ⟨rfl, List.nodup_nil, fun _ hmem => absurd hmem List.not_mem_nil, rfl⟩
  exact (hempty.addServices hadd).addEvents

end

end Client

end LocalCloud
