import LocalCloud.Codec.Percent
import LocalCloud.Message.ErrorBody
import LocalCloud.Provider.Exchange
import LocalCloud.Provider.Router

/-!
# Serving requests

How a provider answers.  A request to a service is either refused, with a reason
in the body, or admitted, and then the handler runs once.  An event is delivered
to its subscription's callback.
-/

namespace LocalCloud

open Http (Request Response Peer)

variable {H E : Type} {m : Type → Type} [Monad m]

/-- The largest body that is read, in bytes. -/
def bodyLimit : Nat := 4 * 1024 * 1024

/-- An answer that reports a failure. -/
def failureResponse (status : UInt16) (reason : String) : Response where
  status := status
  contentType := some "application/json"
  body := (ErrorBody.toJson { reason := reason }).bytes

/-- Reads a body that is not too large. -/
def readBody (body : Bytes) : Except Response Bytes :=
  if bodyLimit < body.length then
    .error (failureResponse 400 "cannot read body: length limit exceeded")
  else .ok body

/-- Whether the certificate of a caller can reach the provider. -/
def seesCertificates (proxyHeader : Option String) (peer : Peer) : Bool :=
  peer.isAsked || proxyHeader.isSome

/-- The certificate of the caller: that of the verified peer, else the one a
trusted proxy forwards in percent encoding. -/
def callerCertificate (proxyHeader : Option String) (request : Request) : Option String :=
  match request.peer.certificate? with
  | some pem => some pem
  | none => do
    let value ← request.headers.firstText? (← proxyHeader)
    Percent.decode? value

def credentials (proxyHeader : Option String) (request : Request) : AccessRequest where
  certificate := callerCertificate proxyHeader request
  authorization := request.headers.firstText? "authorization"

namespace ProvidedService

/-- Checks that a caller may use the service. -/
def authorize (proxyHeader : Option String) (moment : Moment) (provided : ProvidedService H)
    (request : Request) : Except Response Unit :=
  if provided.policy.kind = .token ∧ seesCertificates proxyHeader request.peer = false then
    .error (failureResponse 501
      "token access policy needs client certificates, which this provider cannot see")
  else
    match provided.policy.isAuthorized moment (credentials proxyHeader request) with
    | .ok true => .ok ()
    | .ok false =>
      .error (failureResponse 403 ("not authorized to use '" ++ provided.definition ++ "'"))
    | .error failure => .error (failureResponse 403 failure.message)

/-- The request the handler receives, unless the caller is refused or the body
is too large. -/
def accept (proxyHeader : Option String) (moment : Moment) (provided : ProvidedService H)
    (request : Request) : Except Response ServiceRequest := do
  authorize proxyHeader moment provided request
  let body ← readBody request.body
  return {
    method := request.method
    path := request.target.path
    query := Dict.ofList (Query.parse (request.target.query.getD ""))
    headers := Dict.ofList request.headers.texts
    body := body }

/-- The answer made of what the handler returned. -/
def answer : Except Error ServiceResponse → Response
  | .ok response => {
      status := if 100 ≤ response.status ∧ response.status ≤ 999 then response.status else 200
      contentType := some <|
        if Http.isHeaderValue (Utf8.encode response.contentType) then response.contentType
        else "application/octet-stream"
      body := response.body }
  | .error failure => failureResponse 500 failure.message

/-- Serves a request; the handler runs for admitted requests only. -/
def serve (run : H → ServiceRequest → m (Except Error ServiceResponse))
    (proxyHeader : Option String) (moment : Moment) (provided : ProvidedService H)
    (request : Request) : m Response :=
  match accept proxyHeader moment provided request with
  | .error refusal => pure refusal
  | .ok admitted => do return answer (← run provided.handler admitted)

end ProvidedService

namespace Subscription

def readEvent (body : Bytes) : Except Response Event := do
  let body ← readBody body
  match Json.decodeBytes? Event.decode body with
  | some event => .ok event
  | none => .error (failureResponse 400 "invalid event: the body is not an event")

def answer : Except Error Unit → Response
  | .ok () => .ofStatus 200
  | .error (.validation reason) => failureResponse 400 reason
  | .error failure => failureResponse 500 failure.message

def deliver (run : E → Event → m (Except Error Unit)) (subscription : Subscription E)
    (body : Bytes) : m Response :=
  match readEvent body with
  | .error refusal => pure refusal
  | .ok event => do return answer (← subscription.notify run event)

end Subscription

namespace Provider

def handle (runHandler : H → ServiceRequest → m (Except Error ServiceResponse))
    (runCallback : E → Event → m (Except Error Unit)) (provider : Provider H E) (moment : Moment)
    (request : Request) : m Response := do
  let response ← match provider.route request.target.path request.method with
    | .service provided => provided.serve runHandler provider.proxyHeader moment request
    | .event subscription => subscription.deliver runCallback request.body
    | .wrongMethod allowed => pure { status := 405, allow := allowed }
    | .unknown => pure (.ofStatus 404)
  return response.toMethod request.method

end Provider

end LocalCloud
