import ClusterPlan.Options.Document

/-!
# The values of options

Each option is of a kind (`OptionKey.kind`), and has a value of that kind in options (`Options.get`). Options
are known from these values (`Options.ext_get`). Setting an option in a document changes its value to what the
document gives, and no other (`Options.set?_eq_some_iff`).
-/

namespace ClusterPlan

/-- What values an option can have. -/
inductive OptionKind where
  | text
  | count
  | truth
  | texts
deriving DecidableEq

/-- The kind of an option. -/
def OptionKey.kind : OptionKey → OptionKind
  | .name | .image | .network | .token | .apiPort | .timeout => .text
  | .masters | .workers => .count
  | .wait | .updateKubeconfig | .switchContext | .noLoadBalancer | .noImageVolume => .truth
  | .volumes | .ports | .serverArgs | .agentArgs => .texts

/-- A value of an option; a list is always set. -/
inductive OptionValue where
  | text (value : Option String)
  | count (value : Option Int64)
  | truth (value : Option Bool)
  | texts (value : List String)
deriving DecidableEq

/-- The value of an option that is not set. -/
def OptionKind.unset : OptionKind → OptionValue
  | .text => .text none
  | .count => .count none
  | .truth => .truth none
  | .texts => .texts []

/-- The value that a document gives an option. -/
def ValueReader.value? {δ : Type} (r : ValueReader δ) : OptionKind → δ → Option OptionValue
  | .text, x => (r.text? x).map .text
  | .count, x => (r.count? x).map .count
  | .truth, x => (r.truth? x).map .truth
  | .texts, x => (r.texts? x).map .texts

namespace Options

/-- The value of an option. -/
def get (o : Options) : OptionKey → OptionValue
  | .name => .text o.name
  | .image => .text o.image
  | .masters => .count o.masters
  | .workers => .count o.workers
  | .network => .text o.network
  | .token => .text o.token
  | .apiPort => .text o.apiPort
  | .volumes => .texts o.volumes
  | .ports => .texts o.ports
  | .wait => .truth o.wait
  | .timeout => .text o.timeout
  | .updateKubeconfig => .truth o.updateKubeconfig
  | .switchContext => .truth o.switchContext
  | .noLoadBalancer => .truth o.noLoadBalancer
  | .noImageVolume => .truth o.noImageVolume
  | .serverArgs => .texts o.serverArgs
  | .agentArgs => .texts o.agentArgs

theorem get_empty (k : OptionKey) : get {} k = k.kind.unset := by
  cases k <;> rfl

/-- Options with the same values are the same. -/
theorem ext_get {o o' : Options} (h : ∀ k, o.get k = o'.get k) : o = o' := by
  cases o
  cases o'
  rw [mk.injEq]
  exact ⟨OptionValue.text.inj (h .name), OptionValue.text.inj (h .image), OptionValue.count.inj (h .masters),
    OptionValue.count.inj (h .workers), OptionValue.text.inj (h .network), OptionValue.text.inj (h .token),
    OptionValue.text.inj (h .apiPort), OptionValue.texts.inj (h .volumes), OptionValue.texts.inj (h .ports),
    OptionValue.truth.inj (h .wait), OptionValue.text.inj (h .timeout),
    OptionValue.truth.inj (h .updateKubeconfig), OptionValue.truth.inj (h .switchContext),
    OptionValue.truth.inj (h .noLoadBalancer), OptionValue.truth.inj (h .noImageVolume),
    OptionValue.texts.inj (h .serverArgs), OptionValue.texts.inj (h .agentArgs)⟩

variable {δ : Type} {r : ValueReader δ} {o o' : Options}

/-- Setting an option gives it the value that is read, and leaves the others as they are. -/
theorem set?_eq_some_iff {k : OptionKey} {x : δ} : o.set? r k x = some o' ↔
    r.value? k.kind x = some (o'.get k) ∧ ∀ k', k' ≠ k → o'.get k' = o.get k' := by
  constructor
  · intro h
    cases k <;> obtain ⟨v, hv, rfl⟩ := Option.map_eq_some_iff.1 h
    -- Every other option is a field of its own, which the update leaves alone.
    all_goals
      refine ⟨Option.map_eq_some_iff.2 ⟨v, hv, rfl⟩, fun k' hk' => ?_⟩
      cases k' <;> first | rfl | exact absurd rfl hk'
  · rintro ⟨hx, hother⟩
    cases k <;> obtain ⟨v, hv, hget⟩ := Option.map_eq_some_iff.1 hx
    all_goals
      refine Option.map_eq_some_iff.2 ⟨v, hv, ext_get fun k' => ?_⟩
      have hk' := hother k'
      cases k' <;> first | exact hget | exact (hk' nofun).symm

end Options
end ClusterPlan
