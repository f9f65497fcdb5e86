import LocalCloud.Config.Overlay
import LocalCloud.Flags
import LocalCloud.Key.Certificate
import LocalCloud.System

/-!
# Configuration

Everything a client is told about itself and its local cloud.  Each value comes
from the first source that has it: the environment, the configuration file, the
defaults.
-/

namespace LocalCloud

/-- The address of a core system. -/
structure CoreAddress where
  address : String
  port : UInt16
deriving DecidableEq, Repr

def CoreAddress.overlay (core : CoreAddress) (file : AddressOverlay) : CoreAddress where
  address := file.address.getD core.address
  port := file.port.getD core.port

/-- Where the core systems are. -/
structure CoreAddresses where
  serviceRegistry : CoreAddress := ⟨"127.0.0.1", 8443⟩
  orchestrator : CoreAddress := ⟨"127.0.0.1", 8441⟩
  authorization : CoreAddress := ⟨"127.0.0.1", 8445⟩
  eventHandler : CoreAddress := ⟨"127.0.0.1", 8455⟩
deriving DecidableEq, Repr

def CoreAddresses.overlay (core : CoreAddresses) (file : CoreOverlay) : CoreAddresses where
  serviceRegistry := core.serviceRegistry.overlay file.serviceRegistry
  orchestrator := core.orchestrator.overlay file.orchestrator
  authorization := core.authorization.overlay file.authorization
  eventHandler := core.eventHandler.overlay file.eventHandler

/-- The configuration of a client. -/
structure Config where
  systemName : String := "arrowhead_client"
  address : String := "127.0.0.1"
  port : UInt16 := 7000
  /-- Whether every call goes over TLS. -/
  secure : Bool := true
  keys : KeyFiles := {}
  core : CoreAddresses := {}
  timeoutSeconds : Nat := 10
  /-- The flags of every orchestration request, unless the request sets them. -/
  flags : Flags := ⟨Dict.ofList [("override_store", true)]⟩
  /-- The header in which a trusted proxy forwards client certificates. -/
  trustedProxyHeader : Option String := none
  /-- Whether a service that cannot be registered keeps the client from
  serving. -/
  failOnRegistrationError : Bool := false
deriving DecidableEq

/-- The files a client can read, by path. -/
abbrev Files := Dict Bytes

namespace Files

def bytes (files : Files) (path : String) : Except Error Bytes :=
  Error.ofOption (.io (path ++ " does not exist")) (files.get? path)

/-- The text of a file. -/
def text (files : Files) (path : String) : Except Error String := do
  Error.ofOption (.io (path ++ " is not UTF-8")) (Utf8.decode? (← files.bytes path))

end Files

namespace Config

/-- Reads a port from the environment: decimal digits, behind an optional plus
sign. -/
def port? (text : String) : Option UInt16 :=
  let digits := match text.toList with
    | '+' :: digits => digits
    | digits => digits
  (Text.decimal? digits).bind fun n => if n ≤ 65535 then some (UInt16.ofNat n) else none

/-- Reads a switch from the environment. -/
def bool? (text : String) : Option Bool :=
  let word := Text.asciiLower (Text.trim text)
  if word ∈ ["1", "true", "yes", "on"] then some true
  else if word ∈ ["0", "false", "no", "off"] then some false
  else none

def fileFlags (overlay : Overlay) : Except Error Flags :=
  (Flags.empty.setAll overlay.flags.entries).mapError fun failure => .config failure.message

/-- The configuration that follows from a file and the environment. -/
def ofSources (overlay : Overlay) (env : String → Option String) : Except Error Config := do
  let flags ← fileFlags overlay
  let defaults : Config := {}
  return {
    systemName := (env "ARROWHEAD_SYSTEM_NAME" <|> overlay.system.name).getD defaults.systemName
    address := (env "ARROWHEAD_ADDRESS" <|> overlay.system.address).getD defaults.address
    port := ((env "ARROWHEAD_PORT").bind port? <|> overlay.system.port).getD defaults.port
    secure := ((env "ARROWHEAD_SECURE").bind bool? <|> overlay.system.secure).getD defaults.secure
    keys := {
      keyfile := env "ARROWHEAD_KEYFILE" <|> overlay.keys.keyfile
      certfile := env "ARROWHEAD_CERTFILE" <|> overlay.keys.certfile
      cafile := env "ARROWHEAD_CAFILE" <|> overlay.keys.cafile
      authorizationPublicKey := overlay.keys.authorizationPublicKey }
    core := defaults.core.overlay overlay.core
    timeoutSeconds := overlay.timeoutSeconds.getD defaults.timeoutSeconds
    flags := defaults.flags.merge flags
    trustedProxyHeader := overlay.provider.trustedProxyHeader
    failOnRegistrationError :=
      overlay.provider.failOnRegistrationError.getD defaults.failOnRegistrationError }

/-- The identity of the client's system.  A secure system with a certificate has
the certificate's public key as authentication info. -/
def system (config : Config) (files : Files) : Except Error System := do
  let plain : System := ⟨config.systemName, config.address, config.port, none⟩
  match config.keys.certfile, config.secure with
  | some certfile, true =>
    return { plain with
      authenticationInfo := some (← Certificate.authenticationInfo (← files.text certfile)) }
  | _, _ => return plain

/-- The paths of key and certificate, if both are configured. -/
def identityFiles? (config : Config) : Option (String × String) := do
  some (← config.keys.keyfile, ← config.keys.certfile)

end Config

end LocalCloud
