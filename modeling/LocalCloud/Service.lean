import LocalCloud.Dict
import LocalCloud.Interface

/-!
# Services

What a service is called, where it lives and how it is reached.
-/

namespace LocalCloud

/-- The description of a service. -/
structure Service where
  definition : String
  uri : String
  interface : Interface
  policy : PolicyKind
  metadata : Dict String := ∅
  version : Option Int64 := none
deriving DecidableEq

namespace Service

/-- The URI without the slashes in front, to be joined to an authority. -/
def uriPath (service : Service) : String :=
  Text.dropLeading '/' service.uri

def path (service : Service) : String :=
  "/" ++ service.uriPath

end Service

end LocalCloud
