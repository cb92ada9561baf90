import ClusterPlan.Cluster.Assembly

/-!
# Building a cluster

`Cluster.build` goes from options to the cluster: it makes the plan and assembles what it asks for.
-/

namespace ClusterPlan

/-- Why no cluster can be built. -/
inductive BuildError where
  | plan (e : PlanError)
  | topology (e : TopologyError)
deriving Repr, DecidableEq

/-- The message that reports a failure. -/
def BuildError.message : BuildError → String
  | .plan e => e.message
  | .topology e => e.message

/-- What is consulted while a cluster is built. -/
structure BuildContext extends Surroundings where
  resolver : Resolver := roleResolver

/-- The cluster that options ask for. -/
def Cluster.build (ctx : BuildContext) (o : Options) : Noted BuildError Cluster := do
  let plan ← (Plan.ofOptions ctx.toSurroundings o).mapError .plan
  (Cluster.assemble ctx.resolver plan).mapError .topology

end ClusterPlan
