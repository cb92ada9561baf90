import ClusterPlan.Plan

/-!
# Clusters

A cluster is the finished description that is handed to the engine: its nodes with all that is
attached to them, masters first, and the load balancer apart from them.
-/

namespace ClusterPlan

/-- The description of a cluster. -/
structure Cluster where
  name : String
  network : Network
  token : String
  settings : CreateSettings
  api : ApiEndpoint
  /-- The masters and then the workers. -/
  nodes : List Node
  /-- The position of the master that initializes a cluster of several masters. -/
  init? : Option Nat
  loadBalancer? : Option Node
deriving Repr, DecidableEq

namespace Cluster

/-- The master that initializes the cluster. -/
def initNode? (c : Cluster) : Option Node :=
  c.init?.bind fun i => c.nodes[i]?

/-- The nodes of a role, the load balancer excluded. -/
def withRole (c : Cluster) (role : Role) : List Node :=
  c.nodes.filter (·.role = role)

/-- The nodes that ports can be attached to: all of them, and the load balancer if there is one. -/
def addressable (c : Cluster) : List Node :=
  c.nodes ++ c.loadBalancer?.toList

end Cluster
end ClusterPlan
