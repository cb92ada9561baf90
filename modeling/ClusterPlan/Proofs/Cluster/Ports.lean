import ClusterPlan.Proofs.Attachment
import ClusterPlan.Proofs.Cluster.Skeleton

/-!
# Where ports are mapped

`Cluster.PlacesPorts` says which addressable node has which mappings, given what the port flags ask
for, and `Cluster.placesPorts_of_build` that every built cluster has its mappings there. The load
balancer is addressed by its role, at the position after the nodes. Every mapping is on some node,
unless there is no node at all (`Cluster.mapped_iff_of_build`).
-/

namespace ClusterPlan.Cluster

/-- Where ports are mapped, if the port flags ask for `qs` in their order. -/
structure PlacesPorts (qs : List Attachment) (c : Cluster) : Prop where
  specs_nodup : (qs.map Attachment.spec).Nodup
  length_filters {q : Attachment} (h : q ∈ qs) : q.filters.length ≤ 1
  length_addressable {q : Attachment} (h : q ∈ qs) (hf : q.filters = []) : c.addressable.length ≤ 1
  /-- No node has a mapping twice. -/
  nodup {j : Nat} {n : Node} (h : c.addressable[j]? = some n) : n.ports.Nodup
  /-- A node has the mappings that are asked for without a filter or with a filter that selects it. -/
  mem_iff {j : Nat} {n : Node} (h : c.addressable[j]? = some n) {mapping : String} :
    mapping ∈ n.ports ↔ ∃ q ∈ qs, q.spec = mapping ∧ (q.filters = [] ∨
      ∃ text ∈ q.filters, TextSelects (c.addressable.map Node.role) j text)
  /-- The mappings of a node stand in the order of the flags. -/
  order {j : Nat} {n : Node} (h : c.addressable[j]? = some n) :
    n.ports.Sublist (qs.map Attachment.spec)
  /-- The load balancer, after the nodes, is the only member of its role. -/
  loadBalancer {text : String} (h : text = "loadbalancer" ∨ text = "loadbalancer[0]") {j : Nat} :
    TextSelects (c.addressable.map Node.role) j text ↔ c.loadBalancer?.isSome ∧ j = c.nodes.length
  all {j : Nat} : TextSelects (c.addressable.map Node.role) j "all" ↔ j < c.addressable.length

theorem map_role_addressable_placed (p : Plan) (vs ps : List Placement) :
    (placed p vs ps).addressable.map Node.role = addressableRoles p := by
  rw [map_role_addressable_placePorts, map_role_addressable_placeVolumes,
    map_role_addressable_skeleton]

theorem length_addressable_placed (p : Plan) (vs ps : List Placement) :
    (placed p vs ps).addressable.length = (addressableRoles p).length := by
  rw [← map_role_addressable_placed p vs ps, List.length_map]

theorem forall₂_answers {resolver : Resolver} {roles : List Role} {as : List Attachment}
    {ps : List Placement} (h : List.Forall₂ (AnswersPort resolver roles) as ps) :
    List.Forall₂ (Answers resolver roles) as ps :=
  h.imp fun _ _ ha => ha.2

theorem ports_eq_nil_of_mem_addressable {p : Plan} {vs : List Placement} {n : Node}
    (h : n ∈ ((skeleton p).placeVolumes vs).addressable) : n.ports = [] := by
  rcases List.mem_append.1 h with h | h
  · obtain ⟨i, hi⟩ := List.mem_iff_getElem?.1 h
    rw [← placePorts_nil ((skeleton p).placeVolumes vs)] at hi
    exact (attached_of_getElem?_placed hi).2
  · simp only [placeVolumes, skeleton] at h
    split at h
    · cases h
    · rw [List.mem_singleton.1 h]
      rfl

/-- A node has the mappings that it is given. -/
theorem ports_of_getElem?_placed {p : Plan} {vs ps : List Placement} {as : List Attachment}
    (h : List.Forall₂ (Answers roleResolver (addressableRoles p)) as ps) {j : Nat} {n : Node}
    (hn : (placed p vs ps).addressable[j]? = some n) :
    n.ports = Placement.given ps j := by
  have hroles := map_role_addressable_placed p vs []
  rw [placed, placePorts_nil] at hroles
  rw [addressable_placePorts (hroles ▸ h), List.getElem?_mapIdx, Option.map_eq_some_iff] at hn
  obtain ⟨m, hm, rfl⟩ := hn
  rw [Node.addPorts, ports_eq_nil_of_mem_addressable (List.mem_of_getElem? hm), List.nil_append]

/-! ## The load balancer -/

theorem length_nodeRoles (p : Plan) : (nodeRoles p).length = p.masters + p.workers := by
  simp [nodeRoles]

theorem loadBalancer_not_mem_nodeRoles (p : Plan) : Role.loadBalancer ∉ nodeRoles p := by
  simp [nodeRoles]

/-- The load balancer stands after the masters and workers, and no other node has its role. -/
theorem getElem?_addressableRoles {p : Plan} {j : Nat} :
    (addressableRoles p)[j]? = some .loadBalancer ↔
      p.settings.noLoadBalancer = false ∧ j = p.masters + p.workers := by
  unfold addressableRoles
  by_cases hj : j < p.masters + p.workers
  · rw [List.getElem?_append_left (by rwa [length_nodeRoles])]
    constructor
    · exact fun h => absurd (List.mem_of_getElem? h) (loadBalancer_not_mem_nodeRoles p)
    · omega
  · rw [List.getElem?_append_right (by rw [length_nodeRoles]; omega), length_nodeRoles]
    cases p.settings.noLoadBalancer
    · simp only [Bool.false_eq_true, if_false, true_and, List.getElem?_singleton]
      split
      · next h => exact ⟨fun _ => by omega, fun _ => rfl⟩
      · next h => exact ⟨nofun, fun _ => by omega⟩
    · simp

/-- Before the load balancer no other stands. -/
theorem rankAt_loadBalancer (p : Plan) :
    rankAt (addressableRoles p) (p.masters + p.workers) .loadBalancer = 0 := by
  rw [rankAt, addressableRoles, ← length_nodeRoles, List.take_left, List.count_eq_zero]
  exact loadBalancer_not_mem_nodeRoles p

theorem textSelects_loadBalancer {p : Plan} {text : String}
    (h : text = "loadbalancer" ∨ text = "loadbalancer[0]") {j : Nat} :
    TextSelects (addressableRoles p) j text ↔
      p.settings.noLoadBalancer = false ∧ j = p.masters + p.workers := by
  rw [← getElem?_addressableRoles]
  rcases h with rfl | rfl
  · have hread : Filter.read "loadbalancer" =
        .ok { group := .role .loadBalancer, subset := .whole } := by decide +kernel
    exact (textSelects_iff_of_read hread).trans ⟨And.left, fun hr => ⟨hr, trivial⟩⟩
  · have hread : Filter.read "loadbalancer[0]" =
        .ok { group := .role .loadBalancer, subset := .list [0] } := by decide +kernel
    refine (textSelects_iff_of_read hread).trans ⟨And.left, fun hr => ⟨hr, ?_⟩⟩
    rw [(getElem?_addressableRoles.1 hr).2, rankAt_loadBalancer]
    exact List.mem_singleton_self 0

theorem textSelects_all {roles : List Role} {j : Nat} :
    TextSelects roles j "all" ↔ j < roles.length := by
  have hread : Filter.read "all" = .ok { group := .all, subset := .whole } := by decide +kernel
  exact textSelects_iff_of_read hread

/-! ## Built clusters -/

/-- Ports are mapped where the flags ask for them. -/
theorem placesPorts_of_build {ctx : BuildContext} {o : Options} {c : Cluster}
    (hr : ctx.resolver = roleResolver) (h : (build ctx o).result = .ok c) :
    ∃ qs, o.ports.mapM Plan.port = .ok qs ∧ PlacesPorts qs c := by
  obtain ⟨p, vs, ps, hp, -, hps, rfl⟩ := exists_placements_of_build h
  obtain ⟨qs, hqs, hmap⟩ := hp.ports
  obtain ⟨hle, hnodup, hentries⟩ := AttachmentMap.ofPorts_eq_ok_iff.1 hmap
  rw [hr, hentries] at hps
  have hroles := map_role_addressable_placed p vs ps
  have hlen := length_addressable_placed p vs ps
  have htop := hasTopology_placed p vs ps
  have hans := forall₂_answers hps
  have horder {j : Nat} {n : Node} (hn : (placed p vs ps).addressable[j]? = some n) :
      n.ports.Sublist (qs.map Attachment.spec) := by
    rw [ports_of_getElem?_placed hans hn]
    exact given_sublist hans j
  refine ⟨qs, hqs, {
    specs_nodup := hnodup
    length_filters := fun hq => hle _ hq
    length_addressable := fun hq hf => ?_
    nodup := fun hn => hnodup.sublist (horder hn)
    mem_iff := fun {j n} hn mapping => ?_
    order := horder
    loadBalancer := fun {text} ht {j} => ?_
    all := fun {j} => ?_ }⟩
  · obtain ⟨_, hone, -⟩ := Outcome.exists_of_forall₂ hps hq
    rw [hlen]
    exact hone hf
  · have hj : j < (addressableRoles p).length := by
      rw [← hlen]
      exact (List.getElem?_eq_some_iff.1 hn).1
    rw [ports_of_getElem?_placed hans hn, mem_given hans hj, hroles]
    rfl
  · rw [hroles, textSelects_loadBalancer ht, htop.isSome_loadBalancer?, htop.length_nodes]
  · rw [textSelects_all, List.length_map]

/-- Ports on the load balancer and on two of three workers. -/
theorem exists_placesPorts : ∃ c,
    (build {} {
      workers := some 3
      ports := ["6550:6443@loadbalancer", "30080:80@worker[0:1]"] }).result = .ok c ∧
    c.addressable.map Node.ports = [[], ["30080:80"], ["30080:80"], [], ["6550:6443"]] ∧
    ∃ qs, PlacesPorts qs c := by
  refine Noted.exists_of_map_eq_some (by decide +kernel) fun c h => ?_
  obtain ⟨qs, -, hplaces⟩ := placesPorts_of_build rfl h
  exact ⟨qs, hplaces⟩

/-! ## Mappings that get lost -/

theorem addressableRoles_eq_nil_iff {around : Surroundings} {o : Options} {p : Plan}
    (hp : Plan.Meets around o p) : addressableRoles p = [] ↔ o.AsksForNoNodes := by
  rw [hp.asksForNoNodes_iff]
  cases h : p.settings.noLoadBalancer <;> simp [addressableRoles, nodeRoles, h]

/-- A mapping is on some node, unless there are no nodes at all. -/
theorem exists_mem_ports_iff {p : Plan} {vs ps : List Placement} {as : List Attachment}
    (h : List.Forall₂ (AnswersPort roleResolver (addressableRoles p)) as ps) {a : Attachment}
    (ha : a ∈ as) :
    (∃ n ∈ (placed p vs ps).addressable, a.spec ∈ n.ports) ↔ addressableRoles p ≠ [] := by
  have hroles := map_role_addressable_placed p vs ps
  constructor
  · rintro ⟨n, hn, -⟩ hnil
    rw [hnil, List.map_eq_nil_iff] at hroles
    exact List.not_mem_nil (hroles ▸ hn)
  · intro hne
    obtain ⟨_, -, hanswer⟩ := Outcome.exists_of_forall₂ h ha
    obtain ⟨j, hj, hsel⟩ := exists_selected hanswer (.inr hne)
    have hj' : j < (placed p vs ps).addressable.length := by
      rwa [length_addressable_placed]
    refine ⟨_, List.getElem_mem hj', ?_⟩
    rw [ports_of_getElem?_placed (forall₂_answers h) (List.getElem?_eq_getElem hj')]
    exact (mem_given (forall₂_answers h) hj).2 ⟨a, ha, rfl, hsel⟩

/-- A mapping that is asked for is on some node, and on the only one if it has no filter, exactly if
the options ask for any node. Otherwise it has no filter and gets lost. -/
theorem mapped_iff_of_build {ctx : BuildContext} {o : Options} {c : Cluster}
    (hr : ctx.resolver = roleResolver) (h : (build ctx o).result = .ok c) :
    ∃ qs, o.ports.mapM Plan.port = .ok qs ∧ ∀ q ∈ qs,
      ((∃ n ∈ c.addressable, q.spec ∈ n.ports) ↔ ¬ o.AsksForNoNodes) ∧
      (q.filters = [] → (c.addressable.length = 1 ↔ ¬ o.AsksForNoNodes)) ∧
      (q.filters ≠ [] → ¬ o.AsksForNoNodes) := by
  obtain ⟨p, vs, ps, hp, -, hps, rfl⟩ := exists_placements_of_build h
  obtain ⟨qs, hqs, hmap⟩ := hp.ports
  rw [hr, (AttachmentMap.ofPorts_eq_ok_iff.1 hmap).2.2] at hps
  refine ⟨qs, hqs, fun q hq => ?_⟩
  obtain ⟨_, hone, hanswer⟩ := Outcome.exists_of_forall₂ hps hq
  rw [exists_mem_ports_iff hps hq, length_addressable_placed, ← addressableRoles_eq_nil_iff hp]
  refine ⟨Iff.rfl, fun hf => ?_, fun hf hnil => ?_⟩
  · rw [← List.length_eq_zero_iff]
    have := hone hf
    omega
  · obtain ⟨j, hj, -⟩ := exists_selected hanswer (.inl hf)
    rw [hnil] at hj
    cases hj

/-- Ports with and without a filter on the only node. -/
theorem exists_mapped : ∃ c,
    (build {} {
      ports := ["8080:80", "8443:443@master"], noLoadBalancer := some true }).result = .ok c ∧
    c.addressable.map Node.ports = [["8080:80", "8443:443"]] ∧
    ∃ qs, ["8080:80", "8443:443@master"].mapM Plan.port = .ok qs ∧
      ∀ q ∈ qs, (∃ n ∈ c.addressable, q.spec ∈ n.ports) ∧
        (q.filters = [] → c.addressable.length = 1) := by
  refine Noted.exists_of_map_eq_some (by decide +kernel) fun c h => ?_
  obtain ⟨qs, hqs, hmapped⟩ := mapped_iff_of_build rfl h
  have hasks : ¬ Options.AsksForNoNodes
      { ports := ["8080:80", "8443:443@master"], noLoadBalancer := some true } := by
    simp [Options.AsksForNoNodes]
  refine ⟨qs, hqs, fun q hq => ?_⟩
  obtain ⟨hon, hone, -⟩ := hmapped q hq
  exact ⟨hon.2 hasks, fun hf => (hone hf).2 hasks⟩

/-- Where there is no node, a port without a filter is accepted all the same, and gets lost. -/
theorem exists_lost_mapping : ∃ c,
    (build {} {
      masters := some 0, ports := ["8080:80"], noLoadBalancer := some true }).result = .ok c ∧
    c.addressable = [] ∧
    ["8080:80"].mapM Plan.port = .ok [{ spec := "8080:80", filters := [] }] ∧
    ¬ ∃ n ∈ c.addressable, "8080:80" ∈ n.ports := by
  obtain ⟨c, h, hnone, hport⟩ : ∃ c,
      (build {} {
        masters := some 0, ports := ["8080:80"], noLoadBalancer := some true }).result = .ok c ∧
      c.addressable = [] ∧
      ["8080:80"].mapM Plan.port = .ok [{ spec := "8080:80", filters := [] }] :=
    Noted.exists_of_map_eq_some (by decide +kernel) fun _ _ => by decide +kernel
  exact ⟨c, h, hnone, hport, by simp [hnone]⟩

end ClusterPlan.Cluster
