import ClusterPlan.Plan
import ClusterPlan.Proofs.Outcome

/-!
# What a plan takes from the options

`Plan.Meets` says how each part of a plan comes from the options it was made of, and `meets_of_ofOptions`
that every plan is made this way; `ofOptions_eq_ok_iff` adds that every such plan is made. What later
stages need of plans is read off it.
-/

namespace ClusterPlan

/-- Whether options ask for a cluster with no node and no load balancer. -/
def Options.AsksForNoNodes (o : Options) : Prop :=
  o.masters = some 0 ∧ (o.workers = some 0 ∨ o.workers = none) ∧ o.noLoadBalancer = some true

namespace Plan

/-- A volume flag asks for a mount on the nodes that its filters select. -/
def AsksForVolume (around : Surroundings) (flag : String) (a : Attachment) : Prop :=
  ∃ f m, Flag.split flag = .ok f ∧ Mount.read around.isVolume f.object = .ok m ∧
    a = { spec := m.text, filters := f.filters }

/-- A port flag asks for a mapping to the nodes that its filters select. -/
def AsksForPort (flag : String) (a : Attachment) : Prop :=
  ∃ f m, Flag.split flag = .ok f ∧ PortMapping.read f.object = .ok m ∧
    a = { spec := m.text, filters := f.filters }

section Flags

variable {δ μ : Type} {read : String → Except δ μ} {wrap : δ → PlanError} {text : μ → String}
  {flag : String} {a : Attachment} {e : PlanError}

/-- The attachment that a flag asks for, for objects that are read and written in this way. -/
def attachmentOf (read : String → Except δ μ) (wrap : δ → PlanError) (text : μ → String)
    (flag : String) : Except PlanError Attachment := do
  let f ← (Flag.split flag).mapError .filter
  let object ← (read f.object).mapError wrap
  return { spec := text object, filters := f.filters }

theorem attachmentOf_eq_ok_iff : attachmentOf read wrap text flag = .ok a ↔
    ∃ f object, Flag.split flag = .ok f ∧ read f.object = .ok object ∧
      a = { spec := text object, filters := f.filters } := by
  simp only [attachmentOf, Outcome.bind_eq_ok_iff, Outcome.mapError_eq_ok_iff]
  constructor
  · rintro ⟨f, hf, object, hobject, h⟩
    exact ⟨f, object, hf, hobject, (Except.ok.inj h).symm⟩
  · rintro ⟨f, object, hf, hobject, rfl⟩
    exact ⟨f, hf, object, hobject, rfl⟩

/-- A flag is split before its object is read. -/
theorem attachmentOf_eq_error_iff : attachmentOf read wrap text flag = .error e ↔
    (∃ fault, Flag.split flag = .error fault ∧ e = .filter fault) ∨
      ∃ f fault, Flag.split flag = .ok f ∧ read f.object = .error fault ∧ e = wrap fault := by
  simp only [attachmentOf, Outcome.bind_eq_error_iff, Outcome.mapError_eq_error_iff,
    Outcome.mapError_eq_ok_iff]
  constructor
  · rintro (⟨fault, hf, rfl⟩ | ⟨f, hf, ⟨fault, hobject, rfl⟩ | ⟨_, _, h⟩⟩)
    · exact .inl ⟨fault, hf, rfl⟩
    · exact .inr ⟨f, fault, hf, hobject, rfl⟩
    · cases h
  · rintro (⟨fault, hf, rfl⟩ | ⟨f, fault, hf, hobject, rfl⟩)
    · exact .inl ⟨fault, hf, rfl⟩
    · exact .inr ⟨f, hf, .inl ⟨fault, hobject, rfl⟩⟩

theorem volume_eq_ok_iff {around : Surroundings} :
    volume around flag = .ok a ↔ AsksForVolume around flag a :=
  attachmentOf_eq_ok_iff

theorem port_eq_ok_iff : port flag = .ok a ↔ AsksForPort flag a :=
  attachmentOf_eq_ok_iff

end Flags

/-- How the parts of a plan come from options. -/
structure Meets (around : Surroundings) (o : Options) (p : Plan) : Prop where
  name : p.name = o.name.getD defaultName
  checkName : checkName p.name = .ok ()
  image : p.image = imageFor around o.image
  masters : count "masters" 1 o.masters = .ok p.masters
  workers : count "workers" 0 o.workers = .ok p.workers
  network : p.network = Network.ofName (o.network.getD "")
  hostNetwork : p.network.isHost → p.masters + p.workers ≤ 1
  token : p.token = o.token.getD ""
  timeout? : o.timeout.mapM timeout = .ok p.settings.timeout?
  api : endpoint p.network o.apiPort = .ok p.api
  volumes : ∃ vs, o.volumes.mapM (volume around) = .ok vs ∧ p.volumes = AttachmentMap.ofVolumes vs
  ports : ∃ ps, o.ports.mapM port = .ok ps ∧ AttachmentMap.ofPorts ps = .ok p.ports
  kubeconfig : p.kubeconfig =
    { update := o.updateKubeconfig.getD false || o.switchContext.getD false
      switchContext := o.switchContext.getD false }
  waitForMaster : p.settings.waitForMaster = (o.wait.getD true || p.kubeconfig.update)
  noLoadBalancer : p.settings.noLoadBalancer = o.noLoadBalancer.getD false
  noImageVolume : p.settings.noImageVolume = o.noImageVolume.getD false
  serverArgs : p.settings.serverArgs = o.serverArgs
  agentArgs : p.settings.agentArgs = o.agentArgs

theorem meets_of_ofOptions {around : Surroundings} {o : Options} {p : Plan}
    (h : (ofOptions around o).result = .ok p) : Meets around o p := by
  simp only [ofOptions, Noted.bind_eq_ok_iff, Noted.result_ofExcept,
    Outcome.mapError_eq_ok_iff] at h
  obtain ⟨_, hname, _, _, masters, hm, workers, hw, h⟩ := h
  split at h
  · obtain ⟨_, hf, _⟩ := Noted.bind_eq_ok_iff.1 h
    cases hf
  · next hhost =>
    simp only [Noted.bind_eq_ok_iff, Noted.result_ofExcept, Noted.result_pure,
      Outcome.mapError_eq_ok_iff, Except.ok.injEq] at h
    obtain ⟨timeout?, ht, api, ha, vs, hv, as, has, ports, hp, _, _, rfl⟩ := h
    exact {
      name := rfl, checkName := hname, image := rfl, masters := hm, workers := hw, network := rfl
      hostNetwork := fun hh => Nat.not_lt.1 fun hl => hhost ⟨hh, hl⟩
      token := rfl, timeout? := ht, api := ha, volumes := ⟨vs, hv, rfl⟩, ports := ⟨as, has, hp⟩
      kubeconfig := rfl, waitForMaster := rfl, noLoadBalancer := rfl, noImageVolume := rfl
      serverArgs := rfl, agentArgs := rfl }

/-- The plan of options is the one whose parts come from them. -/
theorem ofOptions_eq_ok_iff {around : Surroundings} {o : Options} {p : Plan} :
    (ofOptions around o).result = .ok p ↔ Meets around o p := by
  refine ⟨meets_of_ofOptions, fun h => ?_⟩
  obtain ⟨name, image, masters, workers, network, token, api, volumes, ports,
    ⟨wait, timeout?, noLoadBalancer, noImageVolume, serverArgs, agentArgs⟩, kubeconfig⟩ := p
  obtain ⟨rfl, hname, rfl, hm, hw, rfl, hhost, rfl, ht, ha, ⟨vs, hvs, rfl⟩, ⟨ps, hps, hp⟩, rfl,
    hwait, rfl, rfl, rfl, rfl⟩ := h
  dsimp only at hwait
  subst hwait
  have hone : ¬ ((Network.ofName (o.network.getD "")).isHost ∧ 1 < masters + workers) :=
    fun hh => Nat.not_lt.2 (hhost hh.1) hh.2
  simp only [ofOptions, Noted.bind_eq_ok_iff, Noted.result_ofExcept, Outcome.mapError_eq_ok_iff]
  refine ⟨_, hname, _, Noted.result_tellIf .., masters, hm, workers, hw, ?_⟩
  rw [if_neg hone]
  simp only [Noted.bind_eq_ok_iff, Noted.result_ofExcept, Noted.result_pure, Outcome.mapError_eq_ok_iff]
  exact ⟨_, ht, _, ha, vs, hvs, ps, hps, _, hp, _, Noted.result_tellIf .., rfl⟩

/-- A count is the value of its option, which is not negative, or what is standard without it. -/
theorem count_eq_ok_iff {option : String} {standard n : Nat} {v : Option Int64} :
    count option standard v = .ok n ↔ (v.map Int64.toInt).getD standard = n := by
  cases v with
  | none => simp only [count, Except.ok.injEq, Option.map_none, Option.getD_none, Int.natCast_inj]
  | some m =>
    simp only [count, Int64.lt_iff_toInt_lt, Int64.toInt_zero, Option.map_some, Option.getD_some]
    split
    · next hneg => exact ⟨nofun, fun h => by omega⟩
    · next hpos => rw [Except.ok.injEq]; omega

theorem count_eq_error_iff {option : String} {standard : Nat} {v : Option Int64} {e : PlanError} :
    count option standard v = .error e ↔
      ∃ n, v = some n ∧ n.toInt < 0 ∧ e = .negativeCount option n.toInt := by
  cases v with
  | none => exact ⟨nofun, nofun⟩
  | some m =>
    simp only [count, Int64.lt_iff_toInt_lt, Int64.toInt_zero, Option.some.injEq, exists_eq_left']
    split
    · next hneg => rw [and_iff_right hneg, Except.error.injEq, eq_comm]
    · next hpos => exact ⟨nofun, fun h => absurd h.1 hpos⟩

theorem count_eq_zero_iff {option : String} {standard n : Nat} {v : Option Int64}
    (h : count option standard v = .ok n) : n = 0 ↔ v = some 0 ∨ v = none ∧ standard = 0 := by
  rw [count_eq_ok_iff] at h
  cases v with
  | none =>
    simp only [reduceCtorEq, true_and, false_or, Option.map_none, Option.getD_none] at h ⊢
    omega
  | some m =>
    simp only [Option.some.injEq, reduceCtorEq, false_and, or_false, Option.map_some,
      Option.getD_some, ← Int64.toInt_inj, Int64.toInt_zero] at h ⊢
    omega

/-! ## Timeouts -/

/-- A text without the blanks around it and without one minus sign before it. -/
def magnitude (text : String) : List Char :=
  let cs := Text.trim text.toList
  if cs.head? = some '-' then cs.tail else cs

/-- A timeout is read without its sign. -/
theorem timeout_eq (text : String) : timeout text =
    match Duration.read (String.ofList (magnitude text)) with
    | .error reason => .error (.invalidTimeout text reason)
    | .ok d =>
      if (Text.trim text.toList).head? = some '-' ∨ d.nanoseconds = 0 then
        .error (.nonPositiveTimeout text)
      else .ok d := by
  unfold timeout magnitude
  cases Text.trim text.toList with
  | nil => cases h : Duration.read "" <;> simp [h]
  | cons c cs =>
    by_cases hc : c = '-'
    · cases h : Duration.read (String.ofList cs) <;> simp [hc, h]
    · cases h : Duration.read (String.ofList (c :: cs)) <;> simp [-String.ofList_cons, hc, h]

/-- A timeout has no sign and is longer than none. -/
theorem timeout_eq_ok_iff {text : String} {d : Duration} :
    timeout text = .ok d ↔ (Text.trim text.toList).head? ≠ some '-' ∧
      Duration.read (String.ofList (Text.trim text.toList)) = .ok d ∧ 0 < d.nanoseconds := by
  by_cases hsign : (Text.trim text.toList).head? = some '-'
  · refine ⟨fun h => ?_, fun h => absurd hsign h.1⟩
    rw [timeout_eq] at h
    split at h
    · cases h
    · rw [if_pos (.inl hsign)] at h
      cases h
  · have hmag : magnitude text = Text.trim text.toList := if_neg hsign
    rw [timeout_eq, hmag, and_iff_right hsign]
    cases hread : Duration.read (String.ofList (Text.trim text.toList)) with
    | error =>
      constructor
      · intro h
        cases h
      · intro h
        cases h.1
    | ok d' =>
      simp only [hsign, false_or]
      constructor
      · intro h
        split at h
        · cases h
        · next hz =>
          cases h
          exact ⟨rfl, Nat.pos_of_ne_zero hz⟩
      · intro h
        cases h.1
        rw [if_neg (Nat.pos_iff_ne_zero.1 h.2)]

/-- What is wrong with a text that is no timeout. -/
theorem timeout_eq_error_iff {text : String} {e : PlanError} :
    timeout text = .error e ↔
      (∃ reason, Duration.read (String.ofList (magnitude text)) = .error reason ∧
        e = .invalidTimeout text reason) ∨
      ∃ d, Duration.read (String.ofList (magnitude text)) = .ok d ∧
        ((Text.trim text.toList).head? = some '-' ∨ d.nanoseconds = 0) ∧
        e = .nonPositiveTimeout text := by
  rw [timeout_eq]
  cases hread : Duration.read (String.ofList (magnitude text)) with
  | error reason => simp [eq_comm]
  | ok d =>
    simp only [Except.ok.injEq, exists_eq_left', reduceCtorEq, false_and, exists_false, false_or]
    split
    · next hz => rw [Except.error.injEq, and_iff_right hz, eq_comm]
    · next hz => exact ⟨nofun, fun h => absurd h.1 hz⟩

/-! ## Nodes -/

theorem Meets.asksForNoNodes_iff {around : Surroundings} {o : Options} {p : Plan}
    (h : Meets around o p) :
    o.AsksForNoNodes ↔ p.masters = 0 ∧ p.workers = 0 ∧ p.settings.noLoadBalancer := by
  have hlb : o.noLoadBalancer.getD false ↔ o.noLoadBalancer = some true := by
    cases o.noLoadBalancer <;> simp
  rw [Options.AsksForNoNodes, count_eq_zero_iff h.masters, count_eq_zero_iff h.workers,
    h.noLoadBalancer, hlb]
  simp

end Plan
end ClusterPlan
