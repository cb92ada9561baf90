/-!
# Options

What a user asks for, in an options file or on the command line. An option that is not set differs
from one that is set to zero or to nothing. Several `Options` are layers of which the later ones win
(`Options.override`).
-/

namespace ClusterPlan

/-- What a user asks for; unset options and empty lists ask for nothing. -/
structure Options where
  name : Option String := none
  image : Option String := none
  masters : Option Int64 := none
  workers : Option Int64 := none
  network : Option String := none
  token : Option String := none
  /-- The endpoint of the API, `[HOST:]PORT`. -/
  apiPort : Option String := none
  /-- Volume mounts with filters, `[SRC:]DEST[:MODE][@FILTER[;FILTER...]]`. -/
  volumes : List String := []
  /-- Port mappings with a filter, `[HOST:][HOSTPORT:]CONTAINERPORT[/PROTOCOL][@FILTER]`. -/
  ports : List String := []
  wait : Option Bool := none
  timeout : Option String := none
  updateKubeconfig : Option Bool := none
  switchContext : Option Bool := none
  noLoadBalancer : Option Bool := none
  noImageVolume : Option Bool := none
  serverArgs : List String := []
  agentArgs : List String := []
deriving Repr, DecidableEq

namespace Options

/-- The options `base` overridden by `top`: what `top` sets wins, and its lists are appended. -/
def override (base top : Options) : Options where
  name := top.name.or base.name
  image := top.image.or base.image
  masters := top.masters.or base.masters
  workers := top.workers.or base.workers
  network := top.network.or base.network
  token := top.token.or base.token
  apiPort := top.apiPort.or base.apiPort
  volumes := base.volumes ++ top.volumes
  ports := base.ports ++ top.ports
  wait := top.wait.or base.wait
  timeout := top.timeout.or base.timeout
  updateKubeconfig := top.updateKubeconfig.or base.updateKubeconfig
  switchContext := top.switchContext.or base.switchContext
  noLoadBalancer := top.noLoadBalancer.or base.noLoadBalancer
  noImageVolume := top.noImageVolume.or base.noImageVolume
  serverArgs := base.serverArgs ++ top.serverArgs
  agentArgs := base.agentArgs ++ top.agentArgs

/-- The options that layers make up, the first layer at the bottom. -/
def ofLayers (layers : List Options) : Options :=
  layers.foldl override {}

end Options
end ClusterPlan
