import LocalCloud.Http.Header
import LocalCloud.Text.Split

/-!
# Requests and responses on the wire

A request as a listener receives it, together with what the listener knows about
the peer, and the response it sends.
-/

namespace LocalCloud.Http

/-- Path and query of a request. -/
structure Target where
  path : String
  /-- The query without the question mark. -/
  query : Option String := none
deriving DecidableEq, Repr

/-- Cuts a request target at the first question mark; a fragment does not
count. -/
def Target.ofString (text : String) : Target :=
  let chars := text.toList.takeWhile (· != '#')
  match Text.splitOnce? '?' chars with
  | none => ⟨String.ofList chars, none⟩
  | some (path, query) => ⟨String.ofList path, some (String.ofList query)⟩

/-- What a listener knows about the certificate of its peer. -/
inductive Peer where
  /-- The listener does not ask for certificates. -/
  | unasked
  /-- The peer was asked and presented none. -/
  | anonymous
  /-- The peer presented a certificate that was verified, in PEM form. -/
  | verified (pem : String)
deriving DecidableEq, Repr

/-- Whether the listener asks for certificates. -/
def Peer.isAsked : Peer → Bool
  | unasked => false
  | _ => true

def Peer.certificate? : Peer → Option String
  | verified pem => some pem
  | _ => none

/-- A request as received. -/
structure Request where
  method : String
  target : Target
  headers : Headers := []
  peer : Peer := .unasked
  body : Bytes := []

/-- A response as sent. -/
structure Response where
  status : UInt16
  contentType : Option String := none
  /-- The methods of the `Allow` header; without one there is no such header. -/
  allow : List String := []
  body : Bytes := []
deriving DecidableEq

namespace Response

/-- A response with a status and nothing else. -/
def ofStatus (status : UInt16) : Response where
  status := status

/-- Whether the status tells of success. -/
def isSuccess (response : Response) : Bool :=
  200 ≤ response.status && response.status < 300

/-- The response as the answer to a method: `HEAD` is answered without a body,
and so is a successful `CONNECT`. -/
def toMethod (method : String) (response : Response) : Response :=
  if method = "HEAD" ∨ (method = "CONNECT" ∧ response.isSuccess) then { response with body := [] }
  else response

end Response

end LocalCloud.Http
