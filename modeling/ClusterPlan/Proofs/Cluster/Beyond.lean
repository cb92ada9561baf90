import ClusterPlan.Proofs.Cluster.Ports

/-!
# Positions beyond the candidates

A resolver may answer with positions that no candidate has. Volumes are placed as if these were dropped;
ports too, unless there is a load balancer, which is given whatever is chosen beyond the nodes. So a
resolver may as well answer as `Resolver.landed` does, and where no port meets a load balancer with a
position beyond it, as `Resolver.within` does, which drops all such positions
(`Cluster.reaches_assemble`). A run is compared step by step: the roles of the candidates, by which the
load balancer is known, stay those of the plan.
-/

namespace ClusterPlan

namespace Noted

variable {ε δ α β γ : Type}

theorem bind_congr {x : Noted ε α} {f g : α → Noted ε β} (h : ∀ a, x.result = .ok a → f a = g a) :
    x >>= f = x >>= g := by
  cases hx : x.result with
  | error => simp only [bind, andThen, hx]
  | ok a => simp only [bind, andThen, hx, h a hx]

theorem mapError_bind_pure (x : Noted ε α) (e : ε → δ) (g : α → β) (f : β → Noted δ γ) :
    (x >>= fun a => pure (g a)).mapError e >>= f = x.mapError e >>= fun a => f (g a) := by
  cases hx : x.result <;> simp [bind, andThen, mapError, hx, Except.mapError, pure, ofExcept]

end Noted

/-! ## Resolvers whose positions are changed -/

/-- Where the positions that are chosen for a question lead: beyond the candidates, to the load balancer if
it is the last of them, and otherwise nowhere. -/
def Query.land (q : Query) (chosen : List Nat) : List Nat :=
  if (q.candidates.map Node.role).getLast? = some .loadBalancer then
    chosen.map (min (q.candidates.length - 1))
  else chosen.filter (· < q.candidates.length)

namespace Resolver

/-- The resolver whose positions are changed. -/
def mapChosen (f : Query → List Nat → List Nat) (resolver : Resolver) : Resolver := fun asked q => do
  let chosen ← resolver asked q
  return f q chosen

/-- The resolver whose positions beyond the candidates are dropped. -/
def within (resolver : Resolver) : Resolver :=
  resolver.mapChosen fun q chosen => chosen.filter (· < q.candidates.length)

/-- The resolver whose positions beyond the candidates are where they lead. -/
def landed (resolver : Resolver) : Resolver :=
  resolver.mapChosen Query.land

/-- Whether a resolver has only positions of candidates for candidates with these roles. -/
def StaysWithin (resolver : Resolver) (roles : List Role) : Prop :=
  ∀ asked q chosen, q.candidates.map Node.role = roles →
    (resolver asked q).result = .ok chosen → ∀ i ∈ chosen, i < q.candidates.length

end Resolver

namespace Cluster

open Placement (given givenFrom)

/-! ## Placing changed positions -/

theorem placeVolumes_congr {c : Cluster} {ps qs : List Placement}
    (h : ∀ i < c.nodes.length, given ps i = given qs i) : c.placeVolumes ps = c.placeVolumes qs := by
  refine congrArg (fun ns => { c with nodes := ns }) (List.mapIdx_eq_mapIdx_iff.2 fun i hi => ?_)
  rw [h i hi]

theorem placePorts_congr {c : Cluster} {ps qs : List Placement}
    (h : ∀ i < c.nodes.length, given ps i = given qs i)
    (hlb : c.loadBalancer?.isSome → givenFrom ps c.nodes.length = givenFrom qs c.nodes.length) :
    c.placePorts ps = c.placePorts qs := by
  have hnodes : (c.nodes.mapIdx fun i n => n.addPorts (given ps i)) =
      c.nodes.mapIdx fun i n => n.addPorts (given qs i) :=
    List.mapIdx_eq_mapIdx_iff.2 fun i hi => by rw [h i hi]
  unfold placePorts
  rw [hnodes]
  cases hl : c.loadBalancer? with
  | none => rfl
  | some lb => rw [hlb (by rw [hl]; rfl)]

theorem given_filter {spec : String} {chosen : List Nat} {n i : Nat} (h : i < n) :
    given [⟨spec, chosen.filter (· < n)⟩] i = given [⟨spec, chosen⟩] i := by
  simp [given, List.count_filter, h]

theorem given_min {spec : String} {chosen : List Nat} {n i : Nat} (h : i < n) :
    given [⟨spec, chosen.map (min n)⟩] i = given [⟨spec, chosen⟩] i := by
  have hcount : (chosen.map (min n)).count i = chosen.count i := by
    rw [List.count, List.countP_map]
    refine List.countP_congr fun k _ => ?_
    simp only [Function.comp_apply, beq_iff_eq]
    omega
  simp [given, hcount]

theorem givenFrom_min {spec : String} {chosen : List Nat} {n : Nat} :
    givenFrom [⟨spec, chosen.map (min n)⟩] n = givenFrom [⟨spec, chosen⟩] n := by
  have hcount : (chosen.map (min n)).countP (n ≤ ·) = chosen.countP (n ≤ ·) := by
    rw [List.countP_map]
    refine List.countP_congr fun k _ => ?_
    simp only [Function.comp_apply, decide_eq_true_eq]
    omega
  simp [givenFrom, hcount]

/-! ## Steps -/

theorem addressable_of_none {c : Cluster} (h : c.loadBalancer? = none) : c.addressable = c.nodes := by
  simp [addressable, h]

theorem addressable_of_some {c : Cluster} {lb : Node} (h : c.loadBalancer? = some lb) :
    c.addressable = c.nodes ++ [lb] := by
  simp [addressable, h]

namespace Draft

variable {resolver : Resolver} {f : Query → List Nat → List Nat} {d d' : Draft} {a : Attachment}

/-- A volume is attached the same if the changed positions place it the same. -/
theorem attachVolume_mapChosen (h : ∀ chosen,
    (resolver d.asked { candidates := d.cluster.nodes, filters := a.filters }).result = .ok chosen →
      d.cluster.placeVolumes
          [⟨a.spec, f { candidates := d.cluster.nodes, filters := a.filters } chosen⟩] =
        d.cluster.placeVolumes [⟨a.spec, chosen⟩]) :
    attachVolume (resolver.mapChosen f) d a = attachVolume resolver d a := by
  unfold attachVolume ask Resolver.mapChosen
  rw [Noted.mapError_bind_pure]
  refine Noted.bind_congr fun chosen hc => ?_
  rw [Noted.result_mapError, Outcome.mapError_eq_ok_iff] at hc
  rw [foldl_addVolume, foldl_addVolume, h chosen hc]

theorem attachPort_mapChosen (h : ∀ chosen,
    (resolver d.asked { candidates := d.cluster.addressable, filters := a.filters }).result =
      .ok chosen →
      d.cluster.placePorts
          [⟨a.spec, f { candidates := d.cluster.addressable, filters := a.filters } chosen⟩] =
        d.cluster.placePorts [⟨a.spec, chosen⟩]) :
    attachPort (resolver.mapChosen f) d a = attachPort resolver d a := by
  unfold attachPort ask Resolver.mapChosen
  simp only
  split
  · rfl
  · rw [Noted.mapError_bind_pure]
    refine Noted.bind_congr fun chosen hc => ?_
    rw [Noted.result_mapError, Outcome.mapError_eq_ok_iff] at hc
    rw [foldl_addPort, foldl_addPort, h chosen hc]

variable {p : Plan}

/-- Where there is a load balancer, the plan asks for one, and it is known by its role. -/
theorem HasRoles.loadBalancer (h : HasRoles p d) {lb : Node} (hl : d.cluster.loadBalancer? = some lb) :
    p.settings.noLoadBalancer = false ∧ lb.role = .loadBalancer := by
  have hroles := h.addressable
  rw [map_role_addressable, h.nodes, addressableRoles, hl, List.append_cancel_left_eq] at hroles
  cases hno : p.settings.noLoadBalancer <;> simp_all

theorem HasRoles.attachVolume_landed (h : HasRoles p d) (resolver : Resolver) (a : Attachment) :
    d.attachVolume resolver.landed a = d.attachVolume resolver a := by
  refine attachVolume_mapChosen fun chosen _ => placeVolumes_congr fun i hi => ?_
  have hlast : (d.cluster.nodes.map Node.role).getLast? ≠ some .loadBalancer := fun hl =>
    loadBalancer_not_mem_nodeRoles p (h.nodes ▸ List.mem_of_getLast? hl)
  rw [Query.land, if_neg hlast, given_filter hi]

theorem attachVolume_within (resolver : Resolver) (d : Draft) (a : Attachment) :
    d.attachVolume resolver.within a = d.attachVolume resolver a :=
  attachVolume_mapChosen fun _ _ => placeVolumes_congr fun _ hi => given_filter hi

theorem HasRoles.attachPort_landed (h : HasRoles p d) (resolver : Resolver) (a : Attachment) :
    d.attachPort resolver.landed a = d.attachPort resolver a := by
  refine attachPort_mapChosen fun chosen _ => ?_
  cases hl : d.cluster.loadBalancer? with
  | none =>
    have haddr := addressable_of_none hl
    have hlast : (d.cluster.nodes.map Node.role).getLast? ≠ some .loadBalancer := fun hm =>
      loadBalancer_not_mem_nodeRoles p (h.nodes ▸ List.mem_of_getLast? hm)
    refine placePorts_congr (fun i hi => ?_) fun hsome => ?_
    · rw [haddr, Query.land, if_neg hlast, given_filter hi]
    · simp [hl] at hsome
  | some lb =>
    have haddr := addressable_of_some hl
    have hland : Query.land { candidates := d.cluster.nodes ++ [lb], filters := a.filters } chosen =
        chosen.map (min d.cluster.nodes.length) := by
      simp [Query.land, (h.loadBalancer hl).2]
    rw [haddr, hland]
    exact placePorts_congr (fun _ hi => given_min hi) fun _ => givenFrom_min

/-- Dropping positions beyond the candidates makes a difference to a port only if there is a load
balancer and such a position is chosen. -/
theorem HasRoles.attachPort_within (h : HasRoles p d)
    (hw : p.settings.noLoadBalancer ∨ resolver.StaysWithin (addressableRoles p)) (a : Attachment) :
    d.attachPort resolver.within a = d.attachPort resolver a := by
  refine attachPort_mapChosen fun chosen hc => ?_
  rcases hw with hno | hw
  · have hl : d.cluster.loadBalancer? = none := by
      cases hl : d.cluster.loadBalancer? with
      | none => rfl
      | some lb => simp [(h.loadBalancer hl).1] at hno
    have haddr := addressable_of_none hl
    refine placePorts_congr (fun i hi => ?_) fun hsome => ?_
    · rw [haddr, given_filter hi]
    · simp [hl] at hsome
  · have hself : chosen.filter (· < d.cluster.addressable.length) = chosen := by
      refine List.filter_eq_self.2 fun i hi => decide_eq_true ?_
      exact hw _ _ _ h.addressable hc i hi
    rw [hself]

/-! ## Runs -/

/-- Runs are the same if their steps are, from every draft that keeps what the steps keep. -/
theorem foldlM_congr {attach attach' : Draft → Attachment → Noted TopologyError Draft}
    {Kept : Draft → Prop} (hkept : ∀ {d a d'}, Kept d → (attach d a).result = .ok d' → Kept d')
    {as : List Attachment} (hstep : ∀ d, ∀ a ∈ as, Kept d → attach' d a = attach d a)
    (h : Kept d) : as.foldlM attach' d = as.foldlM attach d := by
  induction as generalizing d with
  | nil => rfl
  | cons a as ih =>
    rw [List.foldlM_cons, List.foldlM_cons, hstep d a List.mem_cons_self h]
    exact Noted.bind_congr fun d' hd =>
      ih (fun d a ha => hstep d a (List.mem_cons_of_mem _ ha)) (hkept h hd)

end Draft

/-- Resolvers that place each attachment of a plan the same assemble the same. -/
theorem assemble_congr {resolver resolver' : Resolver} {p : Plan}
    (hv : ∀ d, Draft.HasRoles p d → ∀ a,
      d.attachVolume resolver' a = d.attachVolume resolver a)
    (hp : ∀ d, Draft.HasRoles p d → ∀ a ∈ p.ports.entries,
      d.attachPort resolver' a = d.attachPort resolver a) :
    assemble resolver' p = assemble resolver p := by
  have hstart := Draft.hasRoles_skeleton p
  have hvolumes : p.volumes.entries.foldlM (Draft.attachVolume resolver') ⟨skeleton p, []⟩ =
      p.volumes.entries.foldlM (Draft.attachVolume resolver) ⟨skeleton p, []⟩ :=
    Draft.foldlM_congr Draft.HasRoles.attachVolume (fun d a _ h => hv d h a) hstart
  unfold assemble
  dsimp only
  rw [hvolumes]
  refine Noted.bind_congr fun _ _ => Noted.bind_congr fun d hd => Noted.bind_congr fun _ _ => ?_
  rw [Draft.foldlM_congr Draft.HasRoles.attachPort (fun d a ha h => hp d h a ha)
    (Draft.kept_of_foldlM Draft.HasRoles.attachVolume hstart hd)]

/-- Where the positions lead that a resolver answers with for a plan. -/
structure Reaches (resolver : Resolver) (p : Plan) : Prop where
  /-- Those beyond the candidates lead to the load balancer for ports, and otherwise nowhere. -/
  landed : assemble resolver p = assemble resolver.landed p
  /-- They may be dropped, if they are not chosen for ports where there is a load balancer. -/
  within (h : p.settings.noLoadBalancer ∨ p.ports.entries = [] ∨
    resolver.StaysWithin (addressableRoles p)) : assemble resolver p = assemble resolver.within p
  /-- A node has what its own position is chosen for, and the load balancer the ports for which a position
  after the nodes is chosen. -/
  placed {c : Cluster} (h : (assemble resolver p).result = .ok c) :
    ∃ vs ps, List.Forall₂ (Answers resolver (nodeRoles p)) p.volumes.entries vs ∧
      List.Forall₂ (AnswersPort resolver (addressableRoles p)) p.ports.entries ps ∧
      (∀ i n, c.nodes[i]? = some n → n.volumes = given vs i ∧ n.ports = given ps i) ∧
      ∀ n, c.loadBalancer? = some n → n.volumes = [] ∧ n.ports = givenFrom ps c.nodes.length

theorem ports_of_loadBalancer?_placed {p : Plan} {vs ps : List Placement} {n : Node}
    (h : (placed p vs ps).loadBalancer? = some n) :
    n.ports = givenFrom ps (placed p vs ps).nodes.length := by
  rw [length_nodes_placed]
  simp only [placePorts, placeVolumes, List.length_mapIdx, skeleton] at h
  split at h
  · cases h
  · cases h
    rfl

/-- Positions beyond the candidates are harmless but for ports where there is a load balancer, to which
they lead. -/
theorem reaches_assemble (resolver : Resolver) (p : Plan) : Reaches resolver p where
  landed := (assemble_congr (fun _ h a => h.attachVolume_landed resolver a)
    fun _ h a _ => h.attachPort_landed resolver a).symm
  within h := by
    refine (assemble_congr (fun d _ a => d.attachVolume_within resolver a) fun d hd a ha => ?_).symm
    rcases h with hno | hnil | hw
    · exact hd.attachPort_within (.inl hno) a
    · rw [hnil] at ha
      cases ha
    · exact hd.attachPort_within (.inr hw) a
  placed h := by
    obtain ⟨vs, ps, hvs, hps, rfl⟩ := exists_placements h
    refine ⟨vs, ps, hvs, hps, fun i n hn => attached_of_getElem?_placed hn, fun n hn => ?_⟩
    exact ⟨((hasTopology_placed p vs ps).loadBalancer hn).2.2.2.1, ports_of_loadBalancer?_placed hn⟩

/-- A plan of one master, with a volume and a port for it. -/
def onePlan (noLoadBalancer : Bool) : Plan where
  name := defaultName
  image := "k3s"
  masters := 1
  workers := 0
  network := Network.ofName ""
  token := ""
  api := ApiEndpoint.standard
  volumes := ⟨[{ spec := "/a:/a", filters := [] }]⟩
  ports := ⟨[{ spec := "8080:80", filters := ["all"] }]⟩
  settings :=
    { waitForMaster := true, timeout? := none, noLoadBalancer, noImageVolume := false
      serverArgs := [], agentArgs := [] }
  kubeconfig := { update := false, switchContext := false }

/-- Without a load balancer the position that no candidate has is dropped, for the volume as for the
port. -/
theorem exists_reaches : ∃ c, (assemble (fun _ _ => pure [0, 2]) (onePlan true)).result = .ok c ∧
    c.addressable.map (fun n => (n.volumes, n.ports)) = [(["/a:/a"], ["8080:80"])] ∧
    assemble (fun _ _ => pure [0, 2]) (onePlan true) =
      assemble (Resolver.within fun _ _ => pure [0, 2]) (onePlan true) :=
  Noted.exists_of_map_eq_some (by decide +kernel) fun _ _ =>
    (reaches_assemble (fun _ _ => pure [0, 2]) (onePlan true)).within (.inl rfl)

/-- With a load balancer it is given the port, for which no candidate was chosen. -/
theorem exists_stray_mapping : ∃ c c',
    (assemble (fun _ _ => pure [2]) (onePlan false)).result = .ok c ∧
    (assemble (Resolver.within fun _ _ => pure [2]) (onePlan false)).result = .ok c' ∧
    c.addressable.map Node.ports = [[], ["8080:80"]] ∧ c'.addressable.map Node.ports = [[], []] ∧
    c ≠ c' := by
  obtain ⟨c, h, hc, -⟩ : ∃ c, (assemble (fun _ _ => pure [2]) (onePlan false)).result = .ok c ∧
      c.addressable.map Node.ports = [[], ["8080:80"]] ∧ True :=
    Noted.exists_of_map_eq_some (by decide +kernel) fun _ _ => trivial
  obtain ⟨c', h', hc', -⟩ : ∃ c',
      (assemble (Resolver.within fun _ _ => pure [2]) (onePlan false)).result = .ok c' ∧
      c'.addressable.map Node.ports = [[], []] ∧ True :=
    Noted.exists_of_map_eq_some (by decide +kernel) fun _ _ => trivial
  refine ⟨c, c', h, h', hc, hc', ?_⟩
  rintro rfl
  rw [hc] at hc'
  cases hc'

end Cluster
end ClusterPlan
