import LocalCloud.Codec.Base64
import LocalCloud.Consumer.Basic
import LocalCloud.Http.Header
import LocalCloud.Http.Url

/-!
# Calls over HTTP

The request that a call over HTTP sends and the reading of its outcome.  What the
address tells about a user, the headers of the caller and the token are added one
after the other, so a name may occur more than once.
-/

namespace LocalCloud

/-- A request that is ready to be sent. -/
structure HttpCall where
  method : String
  url : String
  headers : Http.Headers
  body : Option Bytes
deriving DecidableEq

namespace HttpCall

def addHeader (headers : Http.Headers) (name value : String) : Except Error Http.Headers :=
  if Http.isHeaderName name && Http.isHeaderValue (Utf8.encode value) then
    .ok (headers ++ [(Text.asciiLower name, Utf8.encode value)])
  else .error (.http "builder error: a header cannot be sent")

/-- The header for a user whom the address names. -/
def userHeaders (url : String) : Http.Headers :=
  match Http.Url.user? url with
  | none => []
  | some (name, password) =>
    let credentials := Base64.encode (Utf8.encode (name ++ ":" ++ password))
    [("authorization", Utf8.encode ("Basic " ++ credentials))]

/-- The headers of a call: that for the user in the address, those of the caller,
then the token. -/
def headersOf (rule : OrchestrationRule) (request : ConsumeRequest) :
    Except Error Http.Headers := do
  let headers ← request.headers.foldlM (fun headers header =>
    addHeader headers header.1 header.2) (userHeaders rule.url)
  match rule.bearerHeader with
  | none => return headers
  | some bearer => addHeader headers "authorization" bearer

/-- Adds the type of a JSON body, unless the caller has given one. -/
def withContentType (headers : Http.Headers) : Http.Headers :=
  if headers.any fun header => header.1 == "content-type" then headers
  else headers ++ [("content-type", Utf8.encode "application/json")]

def urlOf (rule : OrchestrationRule) (request : ConsumeRequest) : String :=
  if request.query.isEmpty then rule.url
  else Http.appendQuery rule.url (Query.toForm request.query)

/-- Whether a URL can be called over HTTP. -/
def isCallable (url : String) : Bool :=
  match Http.Url.ofString? url with
  | some url => url.scheme == "http" || url.scheme == "https"
  | none => false

def ofRequest (rule : OrchestrationRule) (request : ConsumeRequest) : Except Error HttpCall := do
  if !Http.isMethod rule.method then
    throw (.validation ("invalid HTTP method '" ++ rule.method ++ "'"))
  if !isCallable rule.url then
    throw (.http "builder error: the address cannot be called")
  let headers ← headersOf rule request
  return {
    method := rule.method
    url := urlOf rule request
    headers := if request.json.isSome then withContentType headers else headers
    body := request.json.map Json.Value.bytes }

/-- How sending a request ends. -/
inductive Outcome where
  /-- The peer answered with a status and a body. -/
  | answered (status : UInt16) (payload : Bytes)
  /-- There was no connection, it was cut off, or it took too long. -/
  | lost (detail : String)
  /-- The exchange failed within HTTP: in a redirection or in the body of the answer. -/
  | failed (detail : String)
deriving DecidableEq

def result (rule : OrchestrationRule) : Outcome → Except Error Reply
  | .answered status payload => .ok { status, payloadType := rule.payload, payload }
  | .lost detail => .error (.transport detail)
  | .failed detail => .error (.http detail)

def run {m : Type → Type} [Monad m] (send : HttpCall → m Outcome) (rule : OrchestrationRule)
    (request : ConsumeRequest) : m (Except Error Reply) :=
  match ofRequest rule request with
  | .error failure => pure (.error failure)
  | .ok call => do return result rule (← send call)

end HttpCall

end LocalCloud
