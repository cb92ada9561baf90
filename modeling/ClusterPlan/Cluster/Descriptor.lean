import ClusterPlan.Cluster.Basic
import ClusterPlan.Tree.Basic

/-!
# Descriptors

The data of a cluster as it is handed over in a document. Fields that would say nothing are left
out: an empty token, the initializing master of a cluster that has none, the load balancer of one
without, and the settings of masters on other nodes.
-/

namespace ClusterPlan

/-- The data of a node. -/
def Node.descriptor (n : Node) : Tree :=
  .record <|
    [("role", .text n.role.word), ("image", .text n.image), ("args", .texts n.args),
      ("volumes", .texts n.volumes), ("ports", .texts n.ports)] ++
    match n.init? with
    | none => []
    | some isInit => [("masterOpts", .record [("isInit", .bool isInit)])]

/-- The data of a network. -/
def Network.descriptor (n : Network) : Tree :=
  .record [("name", .text n.name), ("external", .bool n.external)]

/-- The data of an endpoint. -/
def ApiEndpoint.descriptor (e : ApiEndpoint) : Tree :=
  .record [("host", .text e.host), ("hostIP", .text e.hostIP), ("port", .text e.port.text)]

/-- The text of a timeout: its whole milliseconds. -/
def Duration.millisecondText (d : Duration) : String :=
  String.ofList (Decimal.digits d.milliseconds) ++ "ms"

/-- The data of the settings. -/
def CreateSettings.descriptor (s : CreateSettings) : Tree :=
  .record [
    ("waitForMaster", .bool s.waitForMaster),
    ("timeout", s.timeout?.elim .null fun d => .text d.millisecondText),
    ("disableLoadBalancer", .bool s.noLoadBalancer),
    ("disableImageVolume", .bool s.noImageVolume),
    ("k3sServerArgs", .texts s.serverArgs),
    ("k3sAgentArgs", .texts s.agentArgs)]

/-- The data of a cluster. -/
def Cluster.descriptor (c : Cluster) : Tree :=
  .record <|
    [("name", .text c.name), ("network", c.network.descriptor)] ++
    (if c.token = "" then [] else [("token", .text c.token)]) ++
    [("createOpts", c.settings.descriptor), ("exposeAPI", c.api.descriptor),
      ("nodes", .list (c.nodes.map Node.descriptor))] ++
    (c.init?.elim [] fun i => [("initNode", .int i)]) ++
    (c.loadBalancer?.elim [] fun n => [("masterLoadBalancer", n.descriptor)])

end ClusterPlan
