import ClusterPlan.Cluster.Basic
import ClusterPlan.Filter.Selection

/-!
# Assembling a cluster

`Cluster.assemble` makes the nodes that a plan asks for, masters before workers, and then attaches
volumes and ports to the nodes that a resolver selects, one attachment after the other. Volumes are
never attached to the load balancer, ports may be. A port without a filter needs a cluster of at
most one addressable node.
-/

namespace ClusterPlan

/-- Why attachments have no place in a cluster. -/
inductive TopologyError where
  | ambiguousPort (spec : String)
  | filter (spec : String) (source : FilterError)
deriving Repr, DecidableEq

/-- The message that reports a failure. -/
def TopologyError.message : TopologyError → String
  | .ambiguousPort spec =>
    s!"Malformed port mapping '{spec}' lacks a node filter, but there is more than one node " ++
      "(including the load balancer, if there is any)"
  | .filter spec source => s!"Failed to attach '{spec}': {source.message}"

namespace Cluster

/-- The cluster of a plan, with nothing attached. -/
def skeleton (p : Plan) : Cluster where
  name := p.name
  network := p.network
  token := p.token
  settings := p.settings
  api := p.api
  nodes :=
    (List.range p.masters).map
        (fun i => Node.master p.image p.settings.serverArgs (i = 0 && 1 < p.masters)) ++
      List.replicate p.workers (Node.worker p.image p.settings.agentArgs)
  init? := if 1 < p.masters then some 0 else none
  loadBalancer? := if p.settings.noLoadBalancer then none else some Node.loadBalancer

/-- The cluster with a volume mounted on the node at a position; nothing beyond the nodes. -/
def addVolume (c : Cluster) (mount : String) (i : Nat) : Cluster :=
  { c with nodes := c.nodes.modify i (·.addVolume mount) }

/-- The cluster with a port mapped to the node at a position; beyond the nodes, to the load balancer
if there is one. -/
def addPort (c : Cluster) (mapping : String) (i : Nat) : Cluster :=
  if i < c.nodes.length then { c with nodes := c.nodes.modify i (·.addPort mapping) }
  else { c with loadBalancer? := c.loadBalancer?.map (·.addPort mapping) }

/-- A cluster in the making, and what the resolver was asked for it. -/
structure Draft where
  cluster : Cluster
  asked : List Query
deriving Repr, DecidableEq

namespace Draft

/-- Asks the resolver which of the candidates an attachment is for. -/
def ask (resolver : Resolver) (d : Draft) (candidates : List Node) (a : Attachment) :
    Noted TopologyError (List Nat) :=
  (resolver d.asked { candidates, filters := a.filters }).mapError (.filter a.spec)

/-- Attaches a volume to the nodes that the resolver selects. -/
def attachVolume (resolver : Resolver) (d : Draft) (a : Attachment) :
    Noted TopologyError Draft := do
  let candidates := d.cluster.nodes
  let chosen ← d.ask resolver candidates a
  return {
    cluster := chosen.foldl (·.addVolume a.spec) d.cluster
    asked := d.asked ++ [{ candidates, filters := a.filters }] }

/-- Attaches a port to the nodes that the resolver selects. -/
def attachPort (resolver : Resolver) (d : Draft) (a : Attachment) : Noted TopologyError Draft := do
  let candidates := d.cluster.addressable
  if a.filters = [] ∧ 1 < candidates.length then Noted.fail (.ambiguousPort a.spec)
  let chosen ← d.ask resolver candidates a
  return {
    cluster := chosen.foldl (·.addPort a.spec) d.cluster
    asked := d.asked ++ [{ candidates, filters := a.filters }] }

end Draft

/-- The cluster that a plan asks for, with the attachments placed by a resolver. -/
def assemble (resolver : Resolver) (p : Plan) : Noted TopologyError Cluster := do
  Noted.tell .debug .assembly s!"Volume attachments: {p.volumes.shown}"
  let draft : Draft := { cluster := skeleton p, asked := [] }
  let draft ← p.volumes.entries.foldlM (Draft.attachVolume resolver) draft
  Noted.tell .debug .assembly s!"Port attachments: {p.ports.shown}"
  let draft ← p.ports.entries.foldlM (Draft.attachPort resolver) draft
  return draft.cluster

end Cluster
end ClusterPlan
