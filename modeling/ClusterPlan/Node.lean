/-!
# Nodes

A node is a container of the cluster: a master that runs the server, a worker that runs the agent,
or the load balancer in front of the masters. Volume mounts and port mappings are attached to nodes
in the order in which they are added.
-/

namespace ClusterPlan

/-- What a node does in the cluster. -/
inductive Role where
  | master
  | worker
  | loadBalancer
deriving Repr, DecidableEq

/-- The word for a role in node filters and in descriptors. -/
def Role.word : Role → String
  | .master => "master"
  | .worker => "worker"
  | .loadBalancer => "loadbalancer"

/-- A container of the cluster. -/
structure Node where
  role : Role
  /-- The image of the container; empty for the load balancer, whose image the engine chooses. -/
  image : String
  /-- The arguments of the server or agent process. -/
  args : List String
  volumes : List String := []
  ports : List String := []
  /-- On masters only: whether this one initializes the cluster before the others join. -/
  init? : Option Bool
deriving Repr, DecidableEq

namespace Node

/-- A master that has nothing attached. -/
def master (image : String) (args : List String) (isInit : Bool) : Node :=
  { role := .master, image, args, init? := some isInit }

/-- A worker that has nothing attached. -/
def worker (image : String) (args : List String) : Node :=
  { role := .worker, image, args, init? := none }

/-- A load balancer that has nothing attached. -/
def loadBalancer : Node :=
  { role := .loadBalancer, image := "", args := [], init? := none }

/-- Whether a node initializes the cluster. -/
def isInit (n : Node) : Bool :=
  n.init?.getD false

/-- The node with one more volume mount. -/
def addVolume (n : Node) (mount : String) : Node :=
  { n with volumes := n.volumes ++ [mount] }

/-- The node with one more port mapping. -/
def addPort (n : Node) (mapping : String) : Node :=
  { n with ports := n.ports ++ [mapping] }

end Node
end ClusterPlan
