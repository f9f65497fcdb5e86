import LocalCloud.Consumer.Basic
import LocalCloud.Http.Header
import LocalCloud.Http.Url

/-!
# Calls over WebSocket

One handshake, one message and one reply.  A header set twice keeps the later
value, and the token replaces any `Authorization` header of the caller.
-/

namespace LocalCloud

/-- A handshake and the message sent after it. -/
structure WebSocketCall where
  url : String
  headers : Http.Headers
  message : String
deriving DecidableEq

namespace WebSocketCall

def urlOf (url : String) (query : Params) : String :=
  if query.isEmpty then url else url ++ "?" ++ Query.toPercent query

/-- Gives a header its only value. -/
def setHeader (headers : Http.Headers) (name : String) (value : Bytes) : Http.Headers :=
  (headers.filter fun header => header.1 != name) ++ [(name, value)]

def setGiven (headers : Http.Headers) (header : String × String) : Except Error Http.Headers :=
  if !Http.isHeaderName header.1 then
    .error (.validation ("invalid header name '" ++ header.1 ++ "': not a name"))
  else if !Http.isHeaderValue (Utf8.encode header.2) then
    .error (.validation "invalid header value: it holds control characters")
  else .ok (setHeader headers (Text.asciiLower header.1) (Utf8.encode header.2))

def setBearer (headers : Http.Headers) (bearer : String) : Except Error Http.Headers :=
  if Http.isHeaderValue (Utf8.encode bearer) then
    .ok (setHeader headers "authorization" (Utf8.encode bearer))
  else .error (.validation "invalid authorization token: it holds control characters")

/-- The headers of a call: those of the caller, then the token. -/
def headersOf (rule : OrchestrationRule) (request : ConsumeRequest) :
    Except Error Http.Headers := do
  let headers ← request.headers.foldlM setGiven []
  match rule.bearerHeader with
  | none => return headers
  | some bearer => setBearer headers bearer

/-- Whether a text before its fragment may stand in a handshake: no blanks, angle
brackets or accents. -/
def isPlain (chars : List Char) : Bool :=
  chars.all fun c => 0x20 < c.toNat && c != '<' && c != '>' && c.toNat != 0x60

/-- Whether an authority has at most one colon outside of brackets. -/
def isAuthority (chars : List Char) : Bool :=
  let host := Http.Url.afterUser chars
  !host.isEmpty && (host.head? == some '[' || host.count ':' ≤ 1)

/-- Whether a handshake can be addressed to a URL. -/
def isCallable (url : String) : Bool :=
  match Text.splitWord? [':', '/', '/'] (url.toList.takeWhile (· != '#')) with
  | none => false
  | some (_, rest) => isPlain rest && isAuthority (rest.takeWhile fun c => c != '/' && c != '?')

/-- The handshake and message for a call through a rule. -/
def ofRequest (rule : OrchestrationRule) (request : ConsumeRequest) :
    Except Error WebSocketCall := do
  if !isCallable rule.url then
    throw (.transport (rule.url ++ ": invalid address"))
  let headers ← headersOf rule request
  return {
    url := urlOf rule.url request.query
    headers := headers
    message := (request.json.map Json.Value.text).getD "" }

/-- How a call ends. -/
inductive Outcome where
  /-- The peer sent a message. -/
  | replied (payload : Bytes)
  /-- The handshake was answered with a status. -/
  | refused (status : UInt16)
  /-- The connection failed, was closed or took too long. -/
  | lost (detail : String)
deriving DecidableEq

def result (rule : OrchestrationRule) : Outcome → Except Error Reply
  | .replied payload => .ok { status := 200, payloadType := rule.payload, payload }
  | .refused status => .error (.unexpectedStatus rule.service.definition status)
  | .lost detail => .error (.transport (rule.url ++ ": " ++ detail))

def run {m : Type → Type} [Monad m] (send : WebSocketCall → m Outcome) (rule : OrchestrationRule)
    (request : ConsumeRequest) : m (Except Error Reply) :=
  match ofRequest rule request with
  | .error failure => pure (.error failure)
  | .ok call => do return result rule (← send call)

end WebSocketCall

end LocalCloud
