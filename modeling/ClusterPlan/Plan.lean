import ClusterPlan.ApiEndpoint
import ClusterPlan.Attachment
import ClusterPlan.Duration.Reader
import ClusterPlan.Image
import ClusterPlan.Mount
import ClusterPlan.Name
import ClusterPlan.Network
import ClusterPlan.Notice
import ClusterPlan.Options.Basic
import ClusterPlan.PortMapping

/-!
# Plans

A plan is what options ask for, checked and complete: every value is parsed, and what was left unset
has its default. `Plan.ofOptions` makes the plan or reports the first rule that the options break,
in the order of the definition.
-/

namespace ClusterPlan

/-- What the engine is to do besides running the nodes. -/
structure CreateSettings where
  /-- Whether creation waits until a master is ready. -/
  waitForMaster : Bool
  /-- How long creation may take; without it, as long as it needs. -/
  timeout? : Option Duration
  noLoadBalancer : Bool
  noImageVolume : Bool
  serverArgs : List String
  agentArgs : List String
deriving Repr, DecidableEq

/-- What happens to the kubeconfig once the cluster is up. -/
structure KubeconfigSettings where
  /-- Whether the context of the cluster is added to it. -/
  update : Bool
  /-- Whether that context becomes the current one. -/
  switchContext : Bool
deriving Repr, DecidableEq

/-- Checked and complete options. -/
structure Plan where
  name : String
  image : String
  masters : Nat
  workers : Nat
  network : Network
  /-- The token that joins nodes to the cluster; empty if the engine is to generate one. -/
  token : String
  api : ApiEndpoint
  volumes : AttachmentMap
  ports : AttachmentMap
  settings : CreateSettings
  kubeconfig : KubeconfigSettings
deriving Repr, DecidableEq

/-- The rule that options break. -/
inductive PlanError where
  | name (e : NameError)
  | negativeCount (option : String) (value : Int)
  | hostNetworkMultipleNodes (count : Nat)
  | nonPositiveTimeout (value : String)
  | invalidTimeout (value : String) (reason : DurationError)
  | filter (e : FilterError)
  | mount (e : MountError)
  | port (e : PortError)
  | api (e : ApiPortError)
  | attachment (e : AttachmentError)
deriving Repr, DecidableEq

/-- The message that reports a broken rule. -/
def PlanError.message : PlanError → String
  | .name e => e.message
  | .negativeCount option value =>
    s!"--{option} must be >= 0, got {String.ofList (Decimal.integer value)}"
  | .hostNetworkMultipleNodes count =>
    s!"Can only run a single node in hostnetwork mode, got {count} nodes"
  | .nonPositiveTimeout value => s!"--timeout DURATION must be >= 1s, got '{value}'"
  | .invalidTimeout value reason => s!"Invalid --timeout '{value}': {reason.message}"
  | .filter e => e.message
  | .mount e => e.message
  | .port e => e.message
  | .api e => e.message
  | .attachment e => e.message

/-- What is looked up elsewhere while a plan is made. -/
structure Surroundings where
  /-- Whether a name is that of an existing volume. -/
  isVolume : String → Bool := fun _ => false
  /-- The release that `latest` stands for. -/
  latestRelease : String := pinnedRelease

namespace Plan

/-- The image of the nodes. -/
def imageFor (around : Surroundings) : Option String → String
  | none => defaultImage
  | some image => if image = "latest" then imageOf around.latestRelease else image

/-- The number of nodes of a role, `standard` if the option is unset. -/
def count (option : String) (standard : Nat) : Option Int64 → Except PlanError Nat
  | none => .ok standard
  | some n => if n < 0 then .error (.negativeCount option n.toInt) else .ok n.toInt.toNat

/-- A timeout: a duration that is not zero, and that no minus sign precedes. -/
def timeout (value : String) : Except PlanError Duration :=
  let (negative, magnitude) := match Text.trim value.toList with
    | '-' :: rest => (true, rest)
    | cs => (false, cs)
  match Duration.read (String.ofList magnitude) with
  | .error reason => .error (.invalidTimeout value reason)
  | .ok d =>
    if negative ∨ d.nanoseconds = 0 then .error (.nonPositiveTimeout value) else .ok d

/-- The attachment that a volume flag asks for. -/
def volume (around : Surroundings) (text : String) : Except PlanError Attachment := do
  let flag ← (Flag.split text).mapError .filter
  let mount ← (Mount.read around.isVolume flag.object).mapError .mount
  return { spec := mount.text, filters := flag.filters }

/-- The attachment that a port flag asks for. -/
def port (text : String) : Except PlanError Attachment := do
  let flag ← (Flag.split text).mapError .filter
  let mapping ← (PortMapping.read flag.object).mapError .port
  return { spec := mapping.text, filters := flag.filters }

/-- Where the API is published; on a node in the network of its host, it listens on its own port. -/
def endpoint (network : Network) (spec : Option String) : Except PlanError ApiEndpoint := do
  let api ← (ApiEndpoint.read (spec.getD "random")).mapError .api
  let api := api.filled
  return if network.isHost then { api with port := .fixed ApiPort.inner } else api

/-- The plan that options ask for. -/
def ofOptions (around : Surroundings) (o : Options) : Noted PlanError Plan := do
  let name := o.name.getD defaultName
  Noted.ofExcept ((checkName name).mapError .name)
  let image := imageFor around o.image
  Noted.tellIf (o.image = some "latest") .info .options s!"Resolved image 'latest' to '{image}'"
  let masters ← Noted.ofExcept (count "masters" 1 o.masters)
  let workers ← Noted.ofExcept (count "workers" 0 o.workers)
  let network := Network.ofName (o.network.getD "")
  if network.isHost ∧ 1 < masters + workers then
    Noted.fail (.hostNetworkMultipleNodes (masters + workers))
  let timeout? ← Noted.ofExcept (o.timeout.mapM timeout)
  let api ← Noted.ofExcept (endpoint network o.apiPort)
  let volumes ← Noted.ofExcept (o.volumes.mapM (volume around))
  let ports ← Noted.ofExcept (o.ports.mapM port)
  let ports ← Noted.ofExcept ((AttachmentMap.ofPorts ports).mapError .attachment)
  let switchContext := o.switchContext.getD false
  let update := o.updateKubeconfig.getD false || switchContext
  let wait := o.wait.getD true
  Noted.tellIf (update && !wait) .debug .options
    "'--update-kubeconfig' set: enabling wait-for-master"
  return {
    name, image, masters, workers, network, api, ports
    token := o.token.getD ""
    volumes := AttachmentMap.ofVolumes volumes
    settings := {
      timeout?
      waitForMaster := wait || update
      noLoadBalancer := o.noLoadBalancer.getD false
      noImageVolume := o.noImageVolume.getD false
      serverArgs := o.serverArgs
      agentArgs := o.agentArgs }
    kubeconfig := { update, switchContext } }

end Plan
end ClusterPlan
