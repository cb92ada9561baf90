/-!
# The names of options

In documents every option has a name of its own (`OptionKey.word`).
-/

namespace ClusterPlan

/-- An option that a document can set. -/
inductive OptionKey where
  | name
  | image
  | masters
  | workers
  | network
  | token
  | apiPort
  | volumes
  | ports
  | wait
  | timeout
  | updateKubeconfig
  | switchContext
  | noLoadBalancer
  | noImageVolume
  | serverArgs
  | agentArgs
deriving Repr, DecidableEq

namespace OptionKey

/-- The options in the order in which documents list them. -/
def all : List OptionKey := [
    .name, .image, .masters, .workers, .network, .token, .apiPort, .volumes, .ports, .wait,
    .timeout, .updateKubeconfig, .switchContext, .noLoadBalancer, .noImageVolume, .serverArgs,
    .agentArgs]

/-- The name of an option in documents. -/
def word : OptionKey → String
  | .name => "name"
  | .image => "image"
  | .masters => "masters"
  | .workers => "workers"
  | .network => "network"
  | .token => "token"
  | .apiPort => "api-port"
  | .volumes => "volumes"
  | .ports => "ports"
  | .wait => "wait"
  | .timeout => "timeout"
  | .updateKubeconfig => "update-kubeconfig"
  | .switchContext => "switch-context"
  | .noLoadBalancer => "no-lb"
  | .noImageVolume => "no-image-volume"
  | .serverArgs => "k3s-server-args"
  | .agentArgs => "k3s-agent-args"

/-- The option with a name. -/
def ofWord? (w : String) : Option OptionKey :=
  all.find? (·.word = w)

/-- Every option is listed. -/
theorem mem_all (k : OptionKey) : k ∈ all := by
  cases k <;> decide

/-- The name of an option leads back to it. -/
theorem ofWord?_word (k : OptionKey) : ofWord? k.word = some k := by
  cases k <;> decide

/-- Only the name of an option leads to it. -/
theorem eq_word_of_ofWord? {w : String} {k : OptionKey} (h : ofWord? w = some k) : w = k.word := by
  have := List.find?_some h
  exact (of_decide_eq_true this).symm

end OptionKey
end ClusterPlan
