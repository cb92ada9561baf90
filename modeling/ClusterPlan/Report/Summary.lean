import ClusterPlan.Cluster.Basic
import ClusterPlan.Report.Table

/-!
# Summaries

What a user is told about a cluster: a table of its nodes, and how to use it once it is up.
-/

namespace ClusterPlan

namespace Node

/-- The items with commas between them, or a dash if there are none. -/
def listed (items : List String) : String :=
  if items = [] then "-" else String.intercalate "," items

/-- The row of a node: its role and image, whether it initializes the cluster, and what is attached
to it. -/
def row (n : Node) : List String :=
  [n.role.word, if n.image = "" then "-" else n.image, if n.isInit then "yes" else "",
    listed n.volumes, listed n.ports]

end Node

namespace Cluster

/-- A line about the cluster and a table of its nodes, the load balancer last. -/
def summary (c : Cluster) : String :=
  let network := if c.network.name = "" then "(new)" else c.network.name
  s!"Cluster: {c.name}   Network: {network}   API: {c.api.host}:{c.api.port.text}\n\n" ++
    Table.render ["ROLE", "IMAGE", "INIT", "VOLUMES", "PORTS"] (c.addressable.map Node.row)

/-- The name of the context of a cluster in the kubeconfig. -/
def contextName (clusterName : String) : String :=
  s!"k3d-{clusterName}"

/-- How to use a cluster, for a program that was called as `program`. -/
def usageHint (c : Cluster) (k : KubeconfigSettings) (program : String) (windows : Bool) : String :=
  let select :=
    if k.switchContext then ""
    else if k.update then s!"kubectl config use-context {contextName c.name}\n"
    else if windows then s!"$env:KUBECONFIG=({program} kubeconfig get {c.name})\n"
    else s!"export KUBECONFIG=$({program} kubeconfig get {c.name})\n"
  "You can now use it like this:\n" ++ select ++ "kubectl cluster-info\n"

end Cluster
end ClusterPlan
