import LocalCloud.Config.Setting

/-!
# Overlays

What a configuration file says about a client.  Everything is optional: an
overlay is laid over the defaults.
-/

namespace LocalCloud

/-- What a file says about the identity of the system. -/
structure SystemOverlay where
  name : Option String := none
  address : Option String := none
  port : Option UInt16 := none
  secure : Option Bool := none
deriving DecidableEq

/-- Where a file says that keys and certificates lie. -/
structure KeyFiles where
  keyfile : Option String := none
  certfile : Option String := none
  cafile : Option String := none
  authorizationPublicKey : Option String := none
deriving DecidableEq

/-- What a file says about the address of a core system. -/
structure AddressOverlay where
  address : Option String := none
  port : Option UInt16 := none
deriving DecidableEq

/-- What a file says about the addresses of the core systems. -/
structure CoreOverlay where
  serviceRegistry : AddressOverlay := {}
  orchestrator : AddressOverlay := {}
  authorization : AddressOverlay := {}
  eventHandler : AddressOverlay := {}
deriving DecidableEq

/-- What a file says about the provider. -/
structure ProviderOverlay where
  trustedProxyHeader : Option String := none
  failOnRegistrationError : Option Bool := none
deriving DecidableEq

/-- What a configuration file says. -/
structure Overlay where
  system : SystemOverlay := {}
  keys : KeyFiles := {}
  core : CoreOverlay := {}
  /-- Orchestration flags under the names the file uses. -/
  flags : Dict Bool := ∅
  provider : ProviderOverlay := {}
  timeoutSeconds : Option Nat := none
deriving DecidableEq

open Setting

def Setting.port (setting : Setting) : Option UInt16 :=
  (setting.nat 65535).map UInt16.ofNat

def SystemOverlay.read (mayOverrun : Bool) (setting : Setting) : Option SystemOverlay := do
  match ← setting.record mayOverrun ["name", "address", "port", "secure"] with
  | [name, address, port, secure] =>
    some {
      name := ← optional text name
      address := ← optional text address
      port := ← optional Setting.port port
      secure := ← optional bool secure }
  | _ => none

/-- Reads the locations of keys and certificates. -/
def KeyFiles.read (mayOverrun : Bool) (setting : Setting) : Option KeyFiles := do
  match ← setting.record mayOverrun
      ["keyfile", "certfile", "cafile", "authorization_public_key"] with
  | [keyfile, certfile, cafile, authorizationPublicKey] =>
    some {
      keyfile := ← optional text keyfile
      certfile := ← optional text certfile
      cafile := ← optional text cafile
      authorizationPublicKey := ← optional text authorizationPublicKey }
  | _ => none

/-- Reads the address of a core system. -/
def AddressOverlay.read (mayOverrun : Bool) (setting : Setting) : Option AddressOverlay := do
  match ← setting.record mayOverrun ["address", "port"] with
  | [address, port] =>
    some { address := ← optional text address, port := ← optional Setting.port port }
  | _ => none

/-- Reads the addresses of the core systems. -/
def CoreOverlay.read (mayOverrun : Bool) (setting : Setting) : Option CoreOverlay := do
  let address := defaulted {} (AddressOverlay.read mayOverrun)
  match ← setting.record mayOverrun
      ["service_registry", "orchestrator", "authorization", "event_handler"] with
  | [serviceRegistry, orchestrator, authorization, eventHandler] =>
    some {
      serviceRegistry := ← address serviceRegistry
      orchestrator := ← address orchestrator
      authorization := ← address authorization
      eventHandler := ← address eventHandler }
  | _ => none

def Overlay.readFlags (mayOverrun : Bool) (setting : Setting) : Option (Dict Bool) := do
  match ← setting.record mayOverrun ["flags"] with
  | [flags] => defaulted ∅ (dict bool) flags
  | _ => none

def ProviderOverlay.read (mayOverrun : Bool) (setting : Setting) : Option ProviderOverlay := do
  match ← setting.record mayOverrun ["trusted_proxy_cert_header", "fail_on_registration_error"] with
  | [trustedProxyHeader, failOnRegistrationError] =>
    some {
      trustedProxyHeader := ← optional text trustedProxyHeader
      failOnRegistrationError := ← optional bool failOnRegistrationError }
  | _ => none

/-- Reads a whole file. -/
def Overlay.read (mayOverrun : Bool) (setting : Setting) : Option Overlay := do
  match ← setting.record mayOverrun
      ["system", "tls", "core", "orchestration", "provider", "timeout_secs"] with
  | [system, tls, core, orchestration, provider, timeout] =>
    some {
      system := ← defaulted {} (SystemOverlay.read mayOverrun) system
      keys := ← defaulted {} (KeyFiles.read mayOverrun) tls
      core := ← defaulted {} (CoreOverlay.read mayOverrun) core
      flags := ← defaulted ∅ (Overlay.readFlags mayOverrun) orchestration
      provider := ← defaulted {} (ProviderOverlay.read mayOverrun) provider
      timeoutSeconds := ← optional (nat 18446744073709551615) timeout }
  | _ => none

end LocalCloud
