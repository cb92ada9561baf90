/-!
# Networks

The nodes of a cluster join an existing network, or a new one that the engine creates.
-/

namespace ClusterPlan

/-- The network that the nodes join. -/
structure Network where
  /-- The name of an existing network; empty if the engine is to create one. -/
  name : String
  /-- Whether the network exists already and is not owned by the cluster. -/
  external : Bool
deriving Repr, DecidableEq

namespace Network

/-- The name of the network that puts a node into the network of its host. -/
def hostName : String := "host"

/-- The existing network of a name, or a new one if the name is empty. -/
def ofName (name : String) : Network :=
  { name, external := name ≠ "" }

/-- Whether a node joins the network of its host. -/
def isHost (n : Network) : Bool :=
  n.name = hostName

end Network
end ClusterPlan
