import LocalCloud.Access.Policy
import LocalCloud.Message.Registry

/-!
# Provided services

The services this system offers, in the order they were declared.  A service
knows whether the service registry lists it; that changes only after the registry
has confirmed a call.  What a handler is stays open: `H` is the type of whatever
stands for one.
-/

namespace LocalCloud

variable {H : Type}

/-- A service this system offers. -/
structure ProvidedService (H : Type) where
  service : Service
  provider : System
  /-- The method in upper case. -/
  method : String
  handler : H
  policy : AccessPolicy
  /-- Whether the service registry lists the service. -/
  isProvided : Bool := false

namespace ProvidedService

/-- A service that is not registered yet; the method may be in any case. -/
def declare (service : Service) (provider : System) (method : String) (handler : H)
    (policy : AccessPolicy) : ProvidedService H where
  service := service
  provider := provider
  method := Text.upper method
  handler := handler
  policy := policy

def definition (provided : ProvidedService H) : String :=
  provided.service.definition

def path (provided : ProvidedService H) : String :=
  provided.service.path

def registrationForm (provided : ProvidedService H) : RegistrationForm :=
  .ofService provided.service provided.provider

def unregistrationParams (provided : ProvidedService H) : Params :=
  provided.service.unregistrationParams provided.provider

end ProvidedService

/-- The provided services in declaration order. -/
structure ProvidedServices (H : Type) where
  items : List (ProvidedService H) := []

namespace ProvidedServices

/-- No service. -/
def empty : ProvidedServices H := {}

instance : Inhabited (ProvidedServices H) := ⟨empty⟩

def get? (services : ProvidedServices H) (definition : String) : Option (ProvidedService H) :=
  services.items.find? fun provided => provided.definition == definition

/-- The failure for a definition that is declared twice. -/
def alreadyProvided (definition : String) : Error :=
  .validation ("service '" ++ definition ++ "' is already provided")

/-- Adds a service whose definition is new. -/
def insert (services : ProvidedServices H) (provided : ProvidedService H) :
    Except Error (ProvidedServices H) :=
  if services.items.any fun other => other.definition == provided.definition then
    .error (alreadyProvided provided.definition)
  else .ok ⟨services.items ++ [provided]⟩

theorem insert_eq_ok_iff {services result : ProvidedServices H} {provided : ProvidedService H} :
    services.insert provided = .ok result ↔
      provided.definition ∉ services.items.map ProvidedService.definition ∧
        result = ⟨services.items ++ [provided]⟩ := by
  have hany : (services.items.any fun other => other.definition == provided.definition) = true ↔
      provided.definition ∈ services.items.map ProvidedService.definition := by
    rw [List.any_eq_true, List.mem_map]
    simp only [beq_iff_eq]
  rw [insert]
  split
  next h =>
    rw [hany] at h
    simp [h]
  next h =>
    rw [hany] at h
    simp [h, eq_comm]

def provided (services : ProvidedServices H) : List (ProvidedService H) :=
  services.items.filter (·.isProvided)

/-- Whether some service is called with tokens. -/
def needsKey (services : ProvidedServices H) : Bool :=
  services.items.any fun provided => provided.policy.kind == .token

end ProvidedServices

end LocalCloud
