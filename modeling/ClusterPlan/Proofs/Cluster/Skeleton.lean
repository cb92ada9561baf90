import ClusterPlan.Proofs.Cluster.Placement

/-!
# The topology of a cluster

`Cluster.HasTopology` says what a plan fixes about its cluster: all but the volumes and ports of the
nodes and the ports of the load balancer. `Cluster.hasTopology_of_assemble` shows that an assembled
cluster has the topology of its plan, whatever is attached and whatever the resolver answers, positions
that repeat or that no candidate has included.
-/

namespace ClusterPlan.Cluster

/-- The topology that a plan asks for. -/
structure HasTopology (p : Plan) (c : Cluster) : Prop where
  length_nodes : c.nodes.length = p.masters + p.workers
  /-- The masters stand before the workers. -/
  role {i : Nat} {n : Node} (h : c.nodes[i]? = some n) :
    n.role = if i < p.masters then .master else .worker
  image {i : Nat} {n : Node} (h : c.nodes[i]? = some n) : n.image = p.image
  args {i : Nat} {n : Node} (h : c.nodes[i]? = some n) :
    n.args = if i < p.masters then p.settings.serverArgs else p.settings.agentArgs
  /-- Masters, and no other nodes, have settings of masters. -/
  isSome_init? {i : Nat} {n : Node} (h : c.nodes[i]? = some n) : n.init?.isSome ↔ n.role = .master
  /-- Only the first of several masters initializes the cluster. -/
  isInit {i : Nat} {n : Node} (h : c.nodes[i]? = some n) : n.isInit ↔ i = 0 ∧ 1 < p.masters
  init? : c.init? = if 1 < p.masters then some 0 else none
  /-- The initializing node of the cluster is the first node, if there are several masters. -/
  initNode? : 1 < p.masters → ∃ n, c.initNode? = some n ∧ c.nodes[0]? = some n
  initNode?_eq_none : p.masters ≤ 1 → c.initNode? = none
  isSome_loadBalancer? : c.loadBalancer?.isSome ↔ p.settings.noLoadBalancer = false
  loadBalancer {n : Node} (h : c.loadBalancer? = some n) :
    n.role = .loadBalancer ∧ n.image = "" ∧ n.args = [] ∧ n.volumes = [] ∧ n.init? = none
  name : c.name = p.name
  network : c.network = p.network
  token : c.token = p.token
  settings : c.settings = p.settings
  api : c.api = p.api

/-- The node of a plan at a position, with nothing attached. -/
def bareNode (p : Plan) (i : Nat) : Node :=
  if i < p.masters then Node.master p.image p.settings.serverArgs (i = 0 && 1 < p.masters)
  else Node.worker p.image p.settings.agentArgs

theorem length_nodes_skeleton (p : Plan) : (skeleton p).nodes.length = p.masters + p.workers := by
  simp [skeleton]

theorem getElem?_nodes_skeleton {p : Plan} {i : Nat} (h : i < p.masters + p.workers) :
    (skeleton p).nodes[i]? = some (bareNode p i) := by
  unfold skeleton bareNode
  by_cases hi : i < p.masters
  · rw [List.getElem?_append_left (by simpa using hi), if_pos hi]
    simp [hi]
  · rw [List.getElem?_append_right (by simpa using hi), if_neg hi]
    have : i - p.masters < p.workers := by omega
    simp [this]

theorem length_nodes_placed (c : Cluster) (vs ps : List Placement) :
    ((c.placeVolumes vs).placePorts ps).nodes.length = c.nodes.length := by
  simp [placeVolumes, placePorts]

/-- A node after placements is the bare node with some volumes and ports. -/
theorem eq_of_getElem?_placed {p : Plan} {vs ps : List Placement} {i : Nat} {n : Node}
    (h : (placed p vs ps).nodes[i]? = some n) :
    n = ((bareNode p i).addVolumes (Placement.given vs i)).addPorts (Placement.given ps i) := by
  have hi : i < p.masters + p.workers := by
    rw [← length_nodes_skeleton, ← length_nodes_placed _ vs ps]
    exact (List.getElem?_eq_some_iff.1 h).1
  simp only [placePorts, placeVolumes, List.getElem?_mapIdx, getElem?_nodes_skeleton hi,
    Option.map_some, Option.some.injEq] at h
  exact h.symm

/-- A node has what it is given, and nothing else. -/
theorem attached_of_getElem?_placed {p : Plan} {vs ps : List Placement} {i : Nat} {n : Node}
    (h : (placed p vs ps).nodes[i]? = some n) :
    n.volumes = Placement.given vs i ∧ n.ports = Placement.given ps i := by
  rw [eq_of_getElem?_placed h]
  simp only [Node.addPorts, Node.addVolumes, bareNode]
  split <;> exact ⟨rfl, rfl⟩

/-- The topology is that of the plan, whatever is placed. -/
theorem hasTopology_placed (p : Plan) (vs ps : List Placement) :
    HasTopology p (placed p vs ps) where
  length_nodes := by rw [length_nodes_placed, length_nodes_skeleton]
  role h := by
    rw [eq_of_getElem?_placed h]
    simp only [Node.role_addPorts, Node.role_addVolumes, bareNode]
    split <;> rfl
  image h := by
    rw [eq_of_getElem?_placed h]
    simp only [Node.addPorts, Node.addVolumes, bareNode]
    split <;> rfl
  args h := by
    rw [eq_of_getElem?_placed h]
    simp only [Node.addPorts, Node.addVolumes, bareNode]
    split <;> rfl
  isSome_init? h := by
    rw [eq_of_getElem?_placed h]
    simp only [Node.addPorts, Node.addVolumes, bareNode]
    split <;> simp [Node.master, Node.worker]
  isInit {i n} h := by
    rw [eq_of_getElem?_placed h]
    simp only [Node.isInit, Node.addPorts, Node.addVolumes, bareNode]
    split
    · simp [Node.master]
    · next hi =>
      simp only [Node.worker, Option.getD_none, Bool.false_eq_true, false_iff]
      omega
  init? := rfl
  initNode? h := by
    have hi : 0 < (placed p vs ps).nodes.length := by
      rw [length_nodes_placed, length_nodes_skeleton]
      omega
    refine ⟨_, ?_, List.getElem?_eq_getElem hi⟩
    simp only [initNode?, placePorts, placeVolumes, skeleton, if_pos h, Option.bind_some]
    exact List.getElem?_eq_getElem hi
  initNode?_eq_none h := by
    simp only [initNode?, placePorts, placeVolumes, skeleton, if_neg (Nat.not_lt.2 h), Option.bind_none]
  isSome_loadBalancer? := by
    cases h : p.settings.noLoadBalancer <;> simp [placePorts, placeVolumes, skeleton, h]
  loadBalancer {n} h := by
    simp only [placePorts, placeVolumes, skeleton] at h
    split at h
    · cases h
    · cases h
      exact ⟨rfl, rfl, rfl, rfl, rfl⟩
  name := rfl
  network := rfl
  token := rfl
  settings := rfl
  api := rfl

/-- An assembled cluster has the topology of its plan, whatever the resolver answers. -/
theorem hasTopology_of_assemble {resolver : Resolver} {p : Plan} {c : Cluster}
    (h : (assemble resolver p).result = .ok c) : HasTopology p c := by
  obtain ⟨vs, ps, -, -, rfl⟩ := exists_placements h
  exact hasTopology_placed p vs ps

/-- The topology of two masters, a worker and a load balancer, under a resolver that always gives the
first position twice and one that no candidate has. -/
theorem exists_hasTopology : ∃ c,
    (assemble (fun _ _ => pure [0, 0, 7])
      { name := defaultName, image := "k3s", masters := 2, workers := 1
        network := Network.ofName "", token := "secret", api := ApiEndpoint.standard
        volumes := ⟨[{ spec := "/a:/a", filters := [] }]⟩
        ports := ⟨[{ spec := "8080:80", filters := ["all"] }]⟩
        settings :=
          { waitForMaster := true, timeout? := none, noLoadBalancer := false, noImageVolume := false
            serverArgs := ["--debug"], agentArgs := [] }
        kubeconfig := { update := false, switchContext := false } }).result = .ok c ∧
    c.nodes.map (fun n => (n.role, n.isInit, n.volumes, n.ports)) =
      [(.master, true, ["/a:/a", "/a:/a"], ["8080:80", "8080:80"]), (.master, false, [], []),
        (.worker, false, [], [])] ∧
    ∃ p, HasTopology p c ∧ p.masters = 2 := by
  refine Noted.exists_of_map_eq_some (by decide +kernel) fun c h => ?_
  exact ⟨_, hasTopology_of_assemble h, rfl⟩

end ClusterPlan.Cluster
