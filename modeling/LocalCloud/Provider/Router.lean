import LocalCloud.Provider.Wiring

/-!
# Routing

The services of a provider are grouped by path, each path with one endpoint for
a method, and a request is answered by the endpoint of its path and method.  The
segments of a wired path are literal texts, captures, written in braces, which
match one segment that is not empty, or a final capture of the rest, written in
braces with a star.  Where several wired paths match, a literal segment goes
before a capture and a capture before a rest.
-/

namespace LocalCloud

variable {H E : Type}

/-- One segment of a wired path. -/
inductive Segment where
  | literal (text : List Char)
  | capture
  | rest
deriving DecidableEq, Repr

namespace Segment

def ofChars (chars : List Char) : Segment :=
  match chars, chars.reverse with
  | '{' :: '*' :: _ :: _, '}' :: _ => rest
  | '{' :: _ :: _, '}' :: _ => capture
  | _, _ => literal chars

def ofPath (path : String) : List Segment :=
  (Text.splitOn '/' path.toList).map ofChars

/-- Whether the segments of a path match those of a wired one. -/
def «matches» : List Segment → List (List Char) → Bool
  | [], [] => true
  | [rest], parts => parts != [] && parts != [[]]
  | literal text :: segments, part :: parts => text == part && «matches» segments parts
  | capture :: segments, part :: parts => !part.isEmpty && «matches» segments parts
  | _, _ => false

/-- The place of a segment among those that match the same text. -/
def rank : Segment → Nat
  | literal _ => 0
  | capture => 1
  | rest => 2

/-- Whether one wired path goes before another that matches the same path. -/
def precedes : List Segment → List Segment → Bool
  | left :: lefts, right :: rights =>
    left.rank < right.rank || (left.rank == right.rank && precedes lefts rights)
  | _, _ => false

end Segment

/-- What serves a request. -/
inductive Route (H E : Type) where
  | service (provided : ProvidedService H)
  | event (subscription : Subscription E)
  /-- The path is wired, but not for the method. -/
  | wrongMethod (allowed : List String)
  /-- The path is not wired. -/
  | unknown

def Offer.route : Offer H E → Route H E
  | service provided => .service provided
  | event subscription => .event subscription

/-- The endpoints of one path by method. -/
structure MethodRouter (H E : Type) where
  endpoints : Dict (Offer H E) := ∅
  /-- The methods to name in an `Allow` header, in the order they were added. -/
  allowed : List String := []

namespace MethodRouter

/-- Adds a method to a list of allowed methods, unless it is there. -/
def allow (allowed : List String) (method : String) : List String :=
  if method ∈ allowed then allowed else allowed ++ [method]

/-- Allows a method; `GET` brings `HEAD` along. -/
def allowing (allowed : List String) (method : String) : List String :=
  let allowed := allow allowed method
  if method = "GET" then allow allowed "HEAD" else allowed

/-- Adds the endpoint of a method, which has none yet. -/
def on? (router : MethodRouter H E) (method : String) (endpoint : Offer H E) :
    Option (MethodRouter H E) :=
  if router.endpoints.contains method then none
  else some {
    endpoints := router.endpoints.insert method endpoint
    allowed := allowing router.allowed method }

/-- The endpoint that answers a method: `HEAD` falls back to `GET`. -/
def endpoint? (router : MethodRouter H E) (method : String) : Option (Offer H E) :=
  match router.endpoints.get? method with
  | some endpoint => some endpoint
  | none => if method = "HEAD" then router.endpoints.get? "GET" else none

def answer (router : MethodRouter H E) (method : String) : Route H E :=
  match router.endpoint? method with
  | some endpoint => endpoint.route
  | none => .wrongMethod router.allowed

/-- Events are delivered with `POST` only. -/
def ofEvent (subscription : Subscription E) : MethodRouter H E where
  endpoints := (∅ : Dict (Offer H E)).insert "POST" (.event subscription)
  allowed := ["POST"]

end MethodRouter

/-- The endpoints of a provider by path and method. -/
abbrev Router (H E : Type) := Dict (MethodRouter H E)

namespace Router

/-- Adds a service to the endpoints of its path; a service with an unknown method
is left out. -/
def addService? (router : Router H E) (service : ProvidedService H) : Option (Router H E) :=
  if service.method ∉ Provider.methods then some router
  else
    let existing := (router.get? service.path).getD {}
    (existing.on? service.method (.service service)).map fun extended =>
      (router.erase service.path).insert service.path extended

/-- Gives a path to a subscription. -/
def addEvent (router : Router H E) (subscription : Subscription E) : Router H E :=
  router.insert subscription.path (.ofEvent subscription)

/-- The better of the path found so far, if any, and another one that matches. -/
def prefer (best : Option String) (wired : String) : Option String :=
  match best with
  | none => some wired
  | some other =>
    if Segment.precedes (Segment.ofPath wired) (Segment.ofPath other) then some wired else best

/-- The wired path that a requested path is routed to. -/
def match? (router : Router H E) (path : String) : Option String :=
  let parts := Text.splitOn '/' path.toList
  let candidates := router.keys.filter fun wired => Segment.matches (Segment.ofPath wired) parts
  candidates.foldl prefer none

def route (router : Router H E) (path method : String) : Route H E :=
  match (router.match? path).bind router.get? with
  | none => .unknown
  | some endpoints => endpoints.answer method

end Router

namespace Provider

/-- The router for everything that was wired; there is none when two services
share a path and a method. -/
def router? (provider : Provider H E) : Option (Router H E) := do
  let router ← provider.services.foldlM Router.addService? ∅
  return provider.events.foldl Router.addEvent router

def route (provider : Provider H E) (path method : String) : Route H E :=
  match provider.router? with
  | none => .unknown
  | some router => router.route path method

end Provider

end LocalCloud
