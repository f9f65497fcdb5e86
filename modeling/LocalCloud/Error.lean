/-!
# Failures

Everything that can go wrong in a local cloud, by kind.  The kinds decide what
happens next: only a transport failure lets a consumer turn to another provider.
The text of a failure is made of the kind and of the detail it carries.
-/

namespace LocalCloud

/-- A failure: its kind and the detail that goes with it. -/
inductive Error where
  /-- A malformed value supplied by a caller. -/
  | validation (detail : String)
  | config (detail : String)
  /-- A core service rejected the request (status 400). -/
  | coreServiceInput (detail : String)
  /-- A core service refused the credentials (status 401 or 403). -/
  | coreServiceNotAuthorized (detail : String)
  /-- A core service failed internally (status 500). -/
  | coreServiceUnavailable (detail : String)
  /-- The orchestrator rejected the request, or its answer names no interface. -/
  | orchestration (detail : String)
  /-- A service answered with a status that has no meaning of its own. -/
  | unexpectedStatus (service : String) (status : UInt16)
  /-- A service that must be registered could not be. -/
  | registration (detail : String)
  /-- No active rule is left for a service definition. -/
  | noAvailableServices (definition : String)
  /-- A token that was understood does not hold. -/
  | invalidToken (detail : String)
  /-- A token that cannot be understood. -/
  | malformedToken (detail : String)
  /-- The connection failed before an answer arrived. -/
  | transport (detail : String)
  | unknownAccessPolicy (name : String)
  /-- A protocol without a consumer. -/
  | unknownProtocol (name : String)
  /-- A certificate that cannot be read or inspected. -/
  | certificate (detail : String)
  /-- An unusable key, or a cipher that failed. -/
  | crypto (detail : String)
  /-- A file that cannot be read. -/
  | io (detail : String)
  /-- An HTTP failure that is not one of the transport. -/
  | http (detail : String)
  /-- A body that is not the JSON of the expected value. -/
  | serialization (detail : String)
  /-- A text that is not TOML. -/
  | toml (detail : String)
  /-- A text that is not YAML. -/
  | yaml (detail : String)
deriving DecidableEq, Repr, Inhabited

namespace Error

/-- The text shown for a failure. -/
def message : Error → String
  | .validation detail => "validation error: " ++ detail
  | .config detail => "configuration error: " ++ detail
  | .coreServiceInput detail => "core service rejected input: " ++ detail
  | .coreServiceNotAuthorized detail => "not authorized by core service: " ++ detail
  | .coreServiceUnavailable detail => "core service unavailable: " ++ detail
  | .orchestration detail => "orchestration error: " ++ detail
  | .unexpectedStatus service status =>
    "unexpected status " ++ toString status.toNat ++ " from " ++ service
  | .registration detail => "registration failed: " ++ detail
  | .noAvailableServices definition => "no services available for '" ++ definition ++ "'"
  | .invalidToken detail => "invalid token: " ++ detail
  | .malformedToken detail => "malformed token: " ++ detail
  | .transport detail => "transport failure: " ++ detail
  | .unknownAccessPolicy name => "unknown access policy: " ++ name
  | .unknownProtocol name => "no consumer for protocol: " ++ name
  | .certificate detail => "certificate error: " ++ detail
  | .crypto detail => "crypto error: " ++ detail
  | .io detail => "io error: " ++ detail
  | .http detail => "http error: " ++ detail
  | .serialization detail => "serialization error: " ++ detail
  | .toml detail => "toml error: " ++ detail
  | .yaml detail => "yaml error: " ++ detail

/-- The name of the kind of a failure. -/
def kind : Error → String
  | .validation _ => "Validation"
  | .config _ => "Config"
  | .coreServiceInput _ => "CoreServiceInput"
  | .coreServiceNotAuthorized _ => "CoreServiceNotAuthorized"
  | .coreServiceUnavailable _ => "CoreServiceUnavailable"
  | .orchestration _ => "Orchestration"
  | .unexpectedStatus _ _ => "UnexpectedStatus"
  | .registration _ => "Registration"
  | .noAvailableServices _ => "NoAvailableServices"
  | .invalidToken _ => "InvalidToken"
  | .malformedToken _ => "MalformedToken"
  | .transport _ => "Transport"
  | .unknownAccessPolicy _ => "UnknownAccessPolicy"
  | .unknownProtocol _ => "UnknownProtocol"
  | .certificate _ => "Certificate"
  | .crypto _ => "Crypto"
  | .io _ => "Io"
  | .http _ => "Http"
  | .serialization _ => "Serialization"
  | .toml _ => "Toml"
  | .yaml _ => "Yaml"

/-- The failure of a kind, by the name of the kind.  The status matters to an
unexpected status only. -/
def ofKind? (kind detail : String) (status : UInt16 := 0) : Option Error :=
  match kind with
  | "Validation" => some (.validation detail)
  | "Config" => some (.config detail)
  | "CoreServiceInput" => some (.coreServiceInput detail)
  | "CoreServiceNotAuthorized" => some (.coreServiceNotAuthorized detail)
  | "CoreServiceUnavailable" => some (.coreServiceUnavailable detail)
  | "Orchestration" => some (.orchestration detail)
  | "UnexpectedStatus" => some (.unexpectedStatus detail status)
  | "Registration" => some (.registration detail)
  | "NoAvailableServices" => some (.noAvailableServices detail)
  | "InvalidToken" => some (.invalidToken detail)
  | "MalformedToken" => some (.malformedToken detail)
  | "Transport" => some (.transport detail)
  | "UnknownAccessPolicy" => some (.unknownAccessPolicy detail)
  | "UnknownProtocol" => some (.unknownProtocol detail)
  | "Certificate" => some (.certificate detail)
  | "Crypto" => some (.crypto detail)
  | "Io" => some (.io detail)
  | "Http" => some (.http detail)
  | "Serialization" => some (.serialization detail)
  | "Toml" => some (.toml detail)
  | "Yaml" => some (.yaml detail)
  | _ => none

/-- Whether the failure lies below the protocol, so that another provider may
still answer. -/
def isTransport : Error → Bool
  | .transport _ => true
  | _ => false

/-- A body that is not the JSON of the value it should hold. -/
def unreadableJson : Error := .serialization "the text is not the JSON of the expected value"

/-- Turns a missing result into a failure. -/
def ofOption {α : Type} (error : Error) : Option α → Except Error α
  | some value => .ok value
  | none => .error error

@[simp]
theorem ofOption_eq_ok_iff {α : Type} {error : Error} {found : Option α} {value : α} :
    ofOption error found = .ok value ↔ found = some value := by
  cases found <;> simp [ofOption]

theorem ok_bind {α β : Type} (value : α) (next : α → Except Error β) :
    (Except.ok value >>= next) = next value :=
  rfl

/-- A computation succeeds when each of its steps does. -/
theorem bind_eq_ok_iff {α β : Type} {first : Except Error α} {next : α → Except Error β}
    {result : β} :
    first >>= next = .ok result ↔ ∃ value, first = .ok value ∧ next value = .ok result := by
  cases first with
  | error failure => simp [bind, Except.bind]
  | ok value => simp [bind, Except.bind]

theorem ofOption_eq_error_iff {α : Type} {error failure : Error} {found : Option α} :
    ofOption error found = .error failure ↔ found = none ∧ error = failure := by
  cases found <;> simp [ofOption]

/-- A computation fails where the first of its steps fails. -/
theorem bind_eq_error_iff {α β : Type} {first : Except Error α} {next : α → Except Error β}
    {failure : Error} :
    first >>= next = .error failure ↔
      first = .error failure ∨ ∃ value, first = .ok value ∧ next value = .error failure := by
  cases first with
  | error found => simp [bind, Except.bind]
  | ok value => simp [bind, Except.bind]

/-- A computation that fails early under a condition succeeds without it. -/
theorem ite_throw_eq_ok_iff {α β : Type} {condition : Prop} [Decidable condition] {error : Error}
    {skipped : α → Except Error β} {next : Except Error β} {result : β} :
    (if condition then (throw error : Except Error α) >>= skipped else next) = .ok result ↔
      ¬ condition ∧ next = .ok result := by
  by_cases h : condition
  · simp [h, throw, throwThe, MonadExceptOf.throw, bind, Except.bind]
  · simp [h]

theorem ite_throw_eq_error_iff {α β : Type} {condition : Prop} [Decidable condition]
    {error failure : Error} {skipped : α → Except Error β} {next : Except Error β} :
    (if condition then (throw error : Except Error α) >>= skipped else next) = .error failure ↔
      condition ∧ error = failure ∨ ¬ condition ∧ next = .error failure := by
  by_cases h : condition
  · simp [h, throw, throwThe, MonadExceptOf.throw, bind, Except.bind]
  · simp [h]

end Error

end LocalCloud
