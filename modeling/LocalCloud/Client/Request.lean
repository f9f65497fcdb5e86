import LocalCloud.Message.Orchestration

/-!
# Orchestration requests

What a client asks of the providers it wants to be told about.
-/

namespace LocalCloud

/-- The requirements of an orchestration. -/
structure OrchestrationRequest where
  interfaces : List Interface := []
  policies : List PolicyKind := []
  metadata : Dict String := ∅
  version : Option Int64 := none
  flags : Flags := .empty
  preferred : List System := []
  pingProviders : Bool := false
deriving DecidableEq

namespace OrchestrationRequest

/-- Asks for one more interface and, if it is new, for its policy. -/
def withInterface (request : OrchestrationRequest) (protocol : String) (policy : PolicyKind)
    (payload : String) : OrchestrationRequest :=
  { request with
    interfaces := request.interfaces ++ [.ofPolicy protocol policy payload]
    policies := if policy ∈ request.policies then request.policies
      else request.policies ++ [policy] }

def query (request : OrchestrationRequest) (definition : String) : QueryForm where
  definition := definition
  interfaces := request.interfaces.map Interface.toString
  security := request.policies.map PolicyKind.name
  metadata := request.metadata
  version := request.version
  pingProviders := request.pingProviders

/-- The form sent to the orchestrator; flags of the request go before those of
the client. -/
def form (request : OrchestrationRequest) (requester : System) (flags : Flags)
    (definition : String) : OrchestrationForm where
  requester := requester
  requested := request.query definition
  flags := (flags.merge request.flags).toWire
  preferred := request.preferred

end OrchestrationRequest

end LocalCloud
