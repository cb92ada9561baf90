import ClusterPlan.Options.Basic
import ClusterPlan.Options.Key

/-!
# Options in documents

A document sets options by their names, each at most once. How a single value is read depends on the
format of the document; a `ValueReader` says so, and `Options.ofFields?` does the rest.
-/

namespace ClusterPlan

/-- How the values of a document are read. Each of the readers fails on a value of another kind; the
first three find that a value leaves its option unset. -/
structure ValueReader (δ : Type) where
  text? : δ → Option (Option String)
  count? : δ → Option (Option Int64)
  truth? : δ → Option (Option Bool)
  texts? : δ → Option (List String)

namespace Options

variable {δ : Type}

/-- The options with one of them set to the value that a document gives it. -/
def set? (r : ValueReader δ) (o : Options) (k : OptionKey) (value : δ) : Option Options :=
  match k with
  | .name => (r.text? value).map fun name => { o with name }
  | .image => (r.text? value).map fun image => { o with image }
  | .masters => (r.count? value).map fun masters => { o with masters }
  | .workers => (r.count? value).map fun workers => { o with workers }
  | .network => (r.text? value).map fun network => { o with network }
  | .token => (r.text? value).map fun token => { o with token }
  | .apiPort => (r.text? value).map fun apiPort => { o with apiPort }
  | .volumes => (r.texts? value).map fun volumes => { o with volumes }
  | .ports => (r.texts? value).map fun ports => { o with ports }
  | .wait => (r.truth? value).map fun wait => { o with wait }
  | .timeout => (r.text? value).map fun timeout => { o with timeout }
  | .updateKubeconfig =>
    (r.truth? value).map fun updateKubeconfig => { o with updateKubeconfig }
  | .switchContext => (r.truth? value).map fun switchContext => { o with switchContext }
  | .noLoadBalancer => (r.truth? value).map fun noLoadBalancer => { o with noLoadBalancer }
  | .noImageVolume => (r.truth? value).map fun noImageVolume => { o with noImageVolume }
  | .serverArgs => (r.texts? value).map fun serverArgs => { o with serverArgs }
  | .agentArgs => (r.texts? value).map fun agentArgs => { o with agentArgs }

/-- Sets one option after the other. -/
def setAll? (r : ValueReader δ) (o : Options) : List (OptionKey × δ) → Option Options
  | [] => some o
  | (k, value) :: fields => (o.set? r k value).bind fun o => setAll? r o fields

/-- The options that fields set, none of them twice. -/
def ofFields? (r : ValueReader δ) (fields : List (OptionKey × δ)) : Option Options :=
  if (fields.map Prod.fst).Nodup then setAll? r {} fields else none

/-- The options that named fields set. -/
def ofNamedFields? (r : ValueReader δ) (fields : List (String × δ)) : Option Options :=
  (fields.mapM fun (field : String × δ) => (OptionKey.ofWord? field.1).map (·, field.2)).bind
    (ofFields? r)

end Options
end ClusterPlan
