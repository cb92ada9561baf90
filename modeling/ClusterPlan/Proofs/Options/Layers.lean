import ClusterPlan.Options.Basic
import ClusterPlan.Proofs.Options.Value
import ClusterPlan.Proofs.Program

/-!
# Layers of options

Options are a monoid under `Options.override`, with the empty options as its unit. So a layer goes in front
of layers that are put together already (`Options.ofLayers_cons`), and layers may be put together in two
parts (`Options.ofLayers_append`), as a file of options and a command line are.

One step: a layer passes on its own value of an option if it sets it, and the value below otherwise
(`Options.get_override`); lists are put one after the other (`Options.texts_override`). By induction on the
layers, the last one that sets an option wins (`Options.get_ofLayers_of_last`). All of this together is
`Options.lawful_layers`.
-/

namespace ClusterPlan.Options

variable {o base top : Options} {k : OptionKey} {layers below above : List Options}

/-! ## The monoid -/

theorem override_assoc (a b c : Options) : (a.override b).override c = a.override (b.override c) := by
  simp only [override, Option.or_assoc, List.append_assoc]

@[simp] theorem empty_override (o : Options) : override {} o = o := by
  simp only [override, Option.or_none, List.nil_append]

@[simp] theorem override_empty (o : Options) : o.override {} = o := by
  simp only [override, Option.none_or, List.append_nil]

instance : Std.Associative override := ⟨override_assoc⟩

theorem ofLayers_append (below above : List Options) :
    ofLayers (below ++ above) = (ofLayers below).override (ofLayers above) := by
  calc ofLayers (below ++ above)
      = above.foldl override ((ofLayers below).override {}) := by
        rw [ofLayers, List.foldl_append, override_empty, ofLayers]
    _ = (ofLayers below).override (ofLayers above) := List.foldl_assoc

theorem ofLayers_cons (o : Options) (layers : List Options) :
    ofLayers (o :: layers) = o.override (ofLayers layers) := by
  rw [← List.singleton_append, ofLayers_append, ofLayers, List.foldl_cons, List.foldl_nil, empty_override]

/-! ## One layer over another -/

/-- The list that is the value of an option; it is empty if the option has a single value. -/
def texts (o : Options) (k : OptionKey) : List String :=
  match o.get k with
  | .texts ts => ts
  | _ => []

theorem get_eq_texts (hk : k.kind = .texts) : o.get k = .texts (o.texts k) := by
  cases k <;> first | rfl | cases hk

theorem texts_override (k : OptionKey) : (base.override top).texts k = base.texts k ++ top.texts k := by
  cases k <;> rfl

theorem apply_or {α : Type} (f : Option α → OptionValue) (hf : ∀ a, f (some a) ≠ f none)
    (top base : Option α) : f (top.or base) = if f top = f none then f base else f top := by
  cases top with
  | none => simp only [Option.none_or, ite_true]
  | some a => simp only [Option.some_or, hf a, ite_false]

/-- An option with a single value has that of the layer on top, if this one sets it. -/
theorem get_override (hk : k.kind ≠ .texts) :
    (base.override top).get k = if top.get k = k.kind.unset then base.get k else top.get k := by
  cases k
  case volumes | ports | serverArgs | agentArgs => exact absurd rfl hk
  case masters | workers => exact apply_or .count nofun ..
  case wait | updateKubeconfig | switchContext | noLoadBalancer | noImageVolume =>
    exact apply_or .truth nofun ..
  all_goals exact apply_or .text nofun ..

/-! ## All layers -/

theorem texts_ofLayers (k : OptionKey) (layers : List Options) :
    (ofLayers layers).texts k = layers.flatMap (texts · k) := by
  induction layers with
  | nil => cases k <;> rfl
  | cons o layers ih => rw [ofLayers_cons, texts_override, ih, List.flatMap_cons]

/-- Layers that do not set an option do not set it together. -/
theorem get_ofLayers_of_unset (hk : k.kind ≠ .texts) (h : ∀ o ∈ layers, o.get k = k.kind.unset) :
    (ofLayers layers).get k = k.kind.unset := by
  induction layers with
  | nil => exact get_empty k
  | cons o layers ih =>
    obtain ⟨ho, hlayers⟩ := List.forall_mem_cons.1 h
    rw [ofLayers_cons, get_override hk, ih hlayers, if_pos rfl, ho]

/-- The last layer that sets an option wins. -/
theorem get_ofLayers_of_last (hk : k.kind ≠ .texts) (hset : o.get k ≠ k.kind.unset)
    (h : ∀ o' ∈ above, o'.get k = k.kind.unset) : (ofLayers (below ++ o :: above)).get k = o.get k := by
  have htop : (ofLayers (o :: above)).get k = o.get k := by
    rw [ofLayers_cons, get_override hk, get_ofLayers_of_unset hk h, if_pos rfl]
  rw [ofLayers_append, get_override hk, htop, if_neg hset]

/-- An option may be set to zero, which is another thing than not to set it. -/
example : ofLayers [{ masters := some 1, volumes := ["/a"] }, { masters := some 0 }, { volumes := ["/b"] }] =
    { masters := some 0, volumes := ["/a", "/b"] } := rfl

/-- How layers come together, and what they come to. -/
structure IsLayered (layers : List Options) : Prop where
  /-- The last layer that sets an option wins. -/
  last {k : OptionKey} {below : List Options} {o : Options} {above : List Options} (hk : k.kind ≠ .texts)
    (hlayers : layers = below ++ o :: above) (hset : o.get k ≠ k.kind.unset)
    (habove : ∀ o' ∈ above, o'.get k = k.kind.unset) : (ofLayers layers).get k = o.get k
  /-- An option that no layer sets is not set. -/
  unset {k : OptionKey} (hk : k.kind ≠ .texts) (h : ∀ o ∈ layers, o.get k = k.kind.unset) :
    (ofLayers layers).get k = k.kind.unset
  /-- The lists of the layers stand one after the other. -/
  lists {k : OptionKey} (hk : k.kind = .texts) :
    (ofLayers layers).get k = .texts (layers.flatMap (texts · k))
  /-- Layers are the lower ones overridden by the upper ones, wherever they are parted. -/
  parted {below above : List Options} (hlayers : layers = below ++ above) :
    (ofLayers below).override (ofLayers above) = ofLayers layers
  /-- So they make the same cluster, or fail alike, wherever they are parted between a file of options and
  a command line. -/
  cluster {below above : List Options} {env : Environment} {inv : CommandLine.Invocation}
    (hlayers : layers = below ++ above) (hfile : Program.Loads env inv.config? (ofLayers below))
    (hflags : inv.options = ofLayers above) : (Program.work env inv).result.map Program.Work.cluster =
      (Cluster.build {} (ofLayers layers)).result.mapError ProgramError.ofBuild

/-- Options are a monoid, in which the last layer that sets an option wins. -/
theorem lawful_layers : (∀ a b c : Options, (a.override b).override c = a.override (b.override c)) ∧
    (∀ o : Options, override {} o = o ∧ o.override {} = o) ∧ ∀ layers, IsLayered layers := by
  refine ⟨override_assoc, fun o => ⟨empty_override o, override_empty o⟩, fun layers => ?_⟩
  have hparted {below above : List Options} (h : layers = below ++ above) :
      (ofLayers below).override (ofLayers above) = ofLayers layers := by
    rw [h, ofLayers_append]
  exact {
    last := fun hk hlayers hset habove => hlayers ▸ get_ofLayers_of_last hk hset habove
    unset := get_ofLayers_of_unset
    lists := fun {k} hk => by rw [get_eq_texts hk, texts_ofLayers]
    parted := hparted
    cluster := fun hlayers hfile hflags => by
      rw [Program.result_work hfile, hflags, hparted hlayers] }

end ClusterPlan.Options
