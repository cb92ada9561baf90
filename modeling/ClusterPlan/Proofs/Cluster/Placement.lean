import ClusterPlan.Cluster.Build
import ClusterPlan.Proofs.Filter.Selection
import ClusterPlan.Proofs.Plan
import Mathlib.Data.List.Forall2
import Mathlib.Data.List.Nodup

/-!
# Placing attachments

Whatever a resolver answers, assembling a cluster only appends mounts and mappings to its nodes. A
`Placement` is an attachment with the positions that were chosen for it; `Cluster.placeVolumes` and
`Cluster.placePorts` say what placements make of a cluster. One attachment is one placement
(`Draft.attachVolume_eq_ok_iff`, `Draft.attachPort_eq_ok_iff`), a run over attachments is a list of
them (`Draft.exists_placements_of_volumes`, `Draft.exists_placements_of_ports`), and an assembled
cluster is the skeleton of its plan with two such lists placed (`Cluster.exists_placements`). Each step,
and so each run, leaves the roles of the candidates as the plan has them (`Draft.HasRoles`).
-/

namespace ClusterPlan

/-- An attachment and the positions chosen for it. -/
structure Placement where
  spec : String
  chosen : List Nat

namespace Placement

/-- What the candidate at a position is given: each specification as often as the position is chosen
for it. -/
def given (ps : List Placement) (i : Nat) : List String :=
  ps.flatMap fun p => List.replicate (p.chosen.count i) p.spec

/-- What is given to the positions from `n` on. -/
def givenFrom (ps : List Placement) (n : Nat) : List String :=
  ps.flatMap fun p => List.replicate (p.chosen.countP (n ≤ ·)) p.spec

theorem given_append (ps qs : List Placement) (i : Nat) :
    given (ps ++ qs) i = given ps i ++ given qs i := List.flatMap_append

theorem givenFrom_append (ps qs : List Placement) (n : Nat) :
    givenFrom (ps ++ qs) n = givenFrom ps n ++ givenFrom qs n := List.flatMap_append

/-- The positions of a placement may be placed one by one. -/
theorem given_cons (spec : String) (i : Nat) (chosen : List Nat) (j : Nat) :
    given [⟨spec, [i]⟩, ⟨spec, chosen⟩] j = given [⟨spec, i :: chosen⟩] j := by
  simp only [given, List.flatMap_cons, List.flatMap_nil, List.append_nil,
    List.replicate_append_replicate, ← List.count_append, List.singleton_append]

theorem givenFrom_cons (spec : String) (i : Nat) (chosen : List Nat) (n : Nat) :
    givenFrom [⟨spec, [i]⟩, ⟨spec, chosen⟩] n = givenFrom [⟨spec, i :: chosen⟩] n := by
  simp only [givenFrom, List.flatMap_cons, List.flatMap_nil, List.append_nil,
    List.replicate_append_replicate, ← List.countP_append, List.singleton_append]

end Placement

open Placement (given givenFrom given_append givenFrom_append given_cons givenFrom_cons)

namespace Node

/-- The node with more volumes. -/
def addVolumes (n : Node) (mounts : List String) : Node :=
  { n with volumes := n.volumes ++ mounts }

/-- The node with more ports. -/
def addPorts (n : Node) (mappings : List String) : Node :=
  { n with ports := n.ports ++ mappings }

@[simp] theorem addVolumes_nil (n : Node) : n.addVolumes [] = n := by simp [addVolumes]

@[simp] theorem addPorts_nil (n : Node) : n.addPorts [] = n := by simp [addPorts]

@[simp] theorem addVolumes_addVolumes (n : Node) (vs ws : List String) :
    (n.addVolumes vs).addVolumes ws = n.addVolumes (vs ++ ws) := by simp [addVolumes]

@[simp] theorem addPorts_addPorts (n : Node) (vs ws : List String) :
    (n.addPorts vs).addPorts ws = n.addPorts (vs ++ ws) := by simp [addPorts]

@[simp] theorem role_addVolumes (n : Node) (vs : List String) : (n.addVolumes vs).role = n.role := rfl

@[simp] theorem role_addPorts (n : Node) (vs : List String) : (n.addPorts vs).role = n.role := rfl

end Node

namespace Cluster

/-- The cluster with volumes placed on its nodes. -/
def placeVolumes (c : Cluster) (ps : List Placement) : Cluster :=
  { c with nodes := c.nodes.mapIdx fun i n => n.addVolumes (given ps i) }

/-- The cluster with ports placed on its nodes and, beyond them, on its load balancer. -/
def placePorts (c : Cluster) (ps : List Placement) : Cluster :=
  { c with
    nodes := c.nodes.mapIdx fun i n => n.addPorts (given ps i)
    loadBalancer? := c.loadBalancer?.map (·.addPorts (givenFrom ps c.nodes.length)) }

theorem mapIdx_self (ns : List Node) : (ns.mapIdx fun _ n => n) = ns := by
  simp [List.mapIdx_eq_iff]

@[simp] theorem placeVolumes_nil (c : Cluster) : c.placeVolumes [] = c := by
  simp [placeVolumes, given, mapIdx_self]

@[simp] theorem placePorts_nil (c : Cluster) : c.placePorts [] = c := by
  simp [placePorts, given, givenFrom, mapIdx_self]

theorem placeVolumes_placeVolumes (c : Cluster) (ps qs : List Placement) :
    (c.placeVolumes ps).placeVolumes qs = c.placeVolumes (ps ++ qs) := by
  simp [placeVolumes, Function.comp_def, given_append]

theorem placePorts_placePorts (c : Cluster) (ps qs : List Placement) :
    (c.placePorts ps).placePorts qs = c.placePorts (ps ++ qs) := by
  simp [placePorts, Function.comp_def, given_append, givenFrom_append]

@[simp] theorem map_role_placeVolumes (c : Cluster) (ps : List Placement) :
    (c.placeVolumes ps).nodes.map Node.role = c.nodes.map Node.role := by
  refine List.ext_getElem? fun i => ?_
  simp [placeVolumes, Function.comp_def]

@[simp] theorem map_role_placePorts (c : Cluster) (ps : List Placement) :
    (c.placePorts ps).nodes.map Node.role = c.nodes.map Node.role := by
  refine List.ext_getElem? fun i => ?_
  simp [placePorts, Function.comp_def]

theorem map_role_addressable (c : Cluster) :
    c.addressable.map Node.role =
      c.nodes.map Node.role ++ (c.loadBalancer?.map Node.role).toList := by
  simp [addressable, Option.toList_map]

@[simp] theorem map_role_addressable_placeVolumes (c : Cluster) (ps : List Placement) :
    (c.placeVolumes ps).addressable.map Node.role = c.addressable.map Node.role := by
  rw [map_role_addressable, map_role_addressable, map_role_placeVolumes]
  rfl

@[simp] theorem map_role_addressable_placePorts (c : Cluster) (ps : List Placement) :
    (c.placePorts ps).addressable.map Node.role = c.addressable.map Node.role := by
  rw [map_role_addressable, map_role_addressable, map_role_placePorts]
  simp [placePorts, Function.comp_def]

/-- A volume that is mounted at one position is placed there. -/
theorem addVolume_eq (c : Cluster) (mount : String) (i : Nat) :
    c.addVolume mount i = c.placeVolumes [⟨mount, [i]⟩] := by
  refine congrArg (fun ns => { c with nodes := ns }) (List.ext_getElem? fun j => ?_)
  rw [List.getElem?_modify, List.getElem?_mapIdx]
  by_cases h : i = j
  · simp [h, given, Node.addVolume, Node.addVolumes]
  · simp [h, given]

/-- A port that is mapped to one position is placed there, which may be the load balancer. -/
theorem addPort_eq (c : Cluster) (mapping : String) (i : Nat) :
    c.addPort mapping i = c.placePorts [⟨mapping, [i]⟩] := by
  have hnodes : c.nodes.modify i (·.addPort mapping) =
      c.nodes.mapIdx fun j n => n.addPorts (given [⟨mapping, [i]⟩] j) := by
    refine List.ext_getElem? fun j => ?_
    rw [List.getElem?_modify, List.getElem?_mapIdx]
    by_cases h : i = j
    · simp [h, given, Node.addPort, Node.addPorts]
    · simp [h, given]
  unfold addPort placePorts
  rw [← hnodes]
  split
  · next h => simp [givenFrom, Nat.not_le.2 h]
  · next h =>
    rw [List.modify_eq_self (Nat.not_lt.1 h)]
    simp [givenFrom, Nat.not_lt.1 h, Node.addPort, Node.addPorts]

/-- A volume that is mounted at chosen positions one after the other is placed there. -/
theorem foldl_addVolume (c : Cluster) (mount : String) (chosen : List Nat) :
    chosen.foldl (·.addVolume mount) c = c.placeVolumes [⟨mount, chosen⟩] := by
  induction chosen generalizing c with
  | nil => simp [placeVolumes, given, mapIdx_self]
  | cons i chosen ih =>
    rw [List.foldl_cons, ih, addVolume_eq, placeVolumes_placeVolumes]
    simp only [placeVolumes, List.singleton_append, given_cons]

theorem foldl_addPort (c : Cluster) (mapping : String) (chosen : List Nat) :
    chosen.foldl (·.addPort mapping) c = c.placePorts [⟨mapping, chosen⟩] := by
  induction chosen generalizing c with
  | nil => simp [placePorts, given, givenFrom, mapIdx_self]
  | cons i chosen ih =>
    rw [List.foldl_cons, ih, addPort_eq, placePorts_placePorts]
    simp only [placePorts, List.singleton_append, given_cons, givenFrom_cons]

/-! ## Runs -/

/-- A placement of an attachment, by the answer that a resolver gives for candidates with these
roles. -/
def Answers (resolver : Resolver) (roles : List Role) (a : Attachment) (p : Placement) : Prop :=
  p.spec = a.spec ∧ ∃ asked candidates, candidates.map Node.role = roles ∧
    (resolver asked { candidates, filters := a.filters }).result = .ok p.chosen

/-- A placement of a port: it has a filter, or there is no more than one candidate. -/
def AnswersPort (resolver : Resolver) (roles : List Role) (a : Attachment) (p : Placement) : Prop :=
  (a.filters = [] → roles.length ≤ 1) ∧ Answers resolver roles a p

namespace Draft

variable {resolver : Resolver} {d d' : Draft} {a : Attachment}

theorem ask_eq_ok_iff {candidates : List Node} {chosen : List Nat} :
    (ask resolver d candidates a).result = .ok chosen ↔
      (resolver d.asked { candidates, filters := a.filters }).result = .ok chosen := by
  rw [ask, Noted.result_mapError, Outcome.mapError_eq_ok_iff]

theorem attachVolume_eq_ok_iff :
    (attachVolume resolver d a).result = .ok d' ↔
      ∃ chosen, (resolver d.asked { candidates := d.cluster.nodes, filters := a.filters }).result =
          .ok chosen ∧
        d' = {
          cluster := d.cluster.placeVolumes [⟨a.spec, chosen⟩]
          asked := d.asked ++ [{ candidates := d.cluster.nodes, filters := a.filters }] } := by
  simp only [attachVolume, Noted.bind_eq_ok_iff, ask_eq_ok_iff, Noted.result_pure, foldl_addVolume,
    Except.ok.injEq, eq_comm (b := d')]

theorem attachPort_eq_ok_iff :
    (attachPort resolver d a).result = .ok d' ↔
      (a.filters = [] → d.cluster.addressable.length ≤ 1) ∧
      ∃ chosen, (resolver d.asked
          { candidates := d.cluster.addressable, filters := a.filters }).result = .ok chosen ∧
        d' = {
          cluster := d.cluster.placePorts [⟨a.spec, chosen⟩]
          asked := d.asked ++ [{ candidates := d.cluster.addressable, filters := a.filters }] } := by
  simp only [attachPort]
  split
  · next h =>
    constructor
    · intro hf
      obtain ⟨_, hf, _⟩ := Noted.bind_eq_ok_iff.1 hf
      cases hf
    · exact fun hf => absurd (hf.1 h.1) (Nat.not_le.2 h.2)
  · next h =>
    rw [and_iff_right fun hf => Nat.not_lt.1 fun hl => h ⟨hf, hl⟩]
    simp only [Noted.bind_eq_ok_iff, ask_eq_ok_iff, Noted.result_pure, foldl_addPort,
      Except.ok.injEq, eq_comm (b := d')]

/-- A run over volumes places them all. -/
theorem exists_placements_of_volumes {as : List Attachment}
    (h : (as.foldlM (attachVolume resolver) d).result = .ok d') :
    ∃ ps, List.Forall₂ (Answers resolver (d.cluster.nodes.map Node.role)) as ps ∧
      d'.cluster = d.cluster.placeVolumes ps := by
  induction as generalizing d with
  | nil => cases h; exact ⟨[], .nil, (placeVolumes_nil _).symm⟩
  | cons a as ih =>
    rw [List.foldlM_cons, Noted.bind_eq_ok_iff] at h
    obtain ⟨d₁, h₁, h⟩ := h
    obtain ⟨chosen, hc, rfl⟩ := attachVolume_eq_ok_iff.1 h₁
    obtain ⟨ps, hps, he⟩ := ih h
    rw [map_role_placeVolumes] at hps
    rw [placeVolumes_placeVolumes] at he
    exact ⟨⟨a.spec, chosen⟩ :: ps, .cons ⟨rfl, _, _, rfl, hc⟩ hps, he⟩

/-- A run over ports places them all. -/
theorem exists_placements_of_ports {as : List Attachment}
    (h : (as.foldlM (attachPort resolver) d).result = .ok d') :
    ∃ ps, List.Forall₂ (AnswersPort resolver (d.cluster.addressable.map Node.role)) as ps ∧
      d'.cluster = d.cluster.placePorts ps := by
  induction as generalizing d with
  | nil => cases h; exact ⟨[], .nil, (placePorts_nil _).symm⟩
  | cons a as ih =>
    rw [List.foldlM_cons, Noted.bind_eq_ok_iff] at h
    obtain ⟨d₁, h₁, h⟩ := h
    obtain ⟨hone, chosen, hc, rfl⟩ := attachPort_eq_ok_iff.1 h₁
    obtain ⟨ps, hps, he⟩ := ih h
    rw [map_role_addressable_placePorts] at hps
    rw [placePorts_placePorts] at he
    refine ⟨⟨a.spec, chosen⟩ :: ps, .cons ⟨?_, rfl, _, _, rfl, hc⟩ hps, he⟩
    rwa [List.length_map]

end Draft

/-- The roles of the nodes of a plan: masters, then workers. -/
def nodeRoles (p : Plan) : List Role :=
  List.replicate p.masters .master ++ List.replicate p.workers .worker

/-- The roles of the nodes of a plan and of its load balancer, if it has one. -/
def addressableRoles (p : Plan) : List Role :=
  nodeRoles p ++ if p.settings.noLoadBalancer then [] else [.loadBalancer]

theorem map_role_skeleton (p : Plan) : (skeleton p).nodes.map Node.role = nodeRoles p := by
  simp [skeleton, nodeRoles, Node.master, Node.worker, Function.comp_def]

theorem map_role_addressable_skeleton (p : Plan) :
    (skeleton p).addressable.map Node.role = addressableRoles p := by
  rw [map_role_addressable, map_role_skeleton, addressableRoles]
  cases h : p.settings.noLoadBalancer <;> simp [skeleton, h, Node.loadBalancer]

namespace Draft

variable {resolver : Resolver} {p : Plan} {d d' : Draft} {a : Attachment}

/-- The candidates of a draft have the roles that its plan gives them. -/
structure HasRoles (p : Plan) (d : Draft) : Prop where
  nodes : d.cluster.nodes.map Node.role = nodeRoles p
  addressable : d.cluster.addressable.map Node.role = addressableRoles p

theorem hasRoles_skeleton (p : Plan) : HasRoles p ⟨skeleton p, []⟩ :=
  ⟨map_role_skeleton p, map_role_addressable_skeleton p⟩

theorem HasRoles.attachVolume (h : HasRoles p d)
    (hd : (d.attachVolume resolver a).result = .ok d') : HasRoles p d' := by
  obtain ⟨chosen, -, rfl⟩ := attachVolume_eq_ok_iff.1 hd
  exact ⟨(map_role_placeVolumes ..).trans h.nodes,
    (map_role_addressable_placeVolumes ..).trans h.addressable⟩

theorem HasRoles.attachPort (h : HasRoles p d)
    (hd : (d.attachPort resolver a).result = .ok d') : HasRoles p d' := by
  obtain ⟨-, chosen, -, rfl⟩ := attachPort_eq_ok_iff.1 hd
  exact ⟨(map_role_placePorts ..).trans h.nodes,
    (map_role_addressable_placePorts ..).trans h.addressable⟩

/-- What each step keeps, a run keeps. -/
theorem kept_of_foldlM {attach : Draft → Attachment → Noted TopologyError Draft} {Kept : Draft → Prop}
    (hkept : ∀ {d a d'}, Kept d → (attach d a).result = .ok d' → Kept d') {as : List Attachment}
    (h : Kept d) (hd : (as.foldlM attach d).result = .ok d') : Kept d' := by
  induction as generalizing d with
  | nil => cases hd; exact h
  | cons a as ih =>
    rw [List.foldlM_cons, Noted.bind_eq_ok_iff] at hd
    obtain ⟨d₁, h₁, hd⟩ := hd
    exact ih (hkept h h₁) hd

end Draft

/-- The cluster of a plan with volumes and ports placed on it. -/
abbrev placed (p : Plan) (vs ps : List Placement) : Cluster :=
  ((skeleton p).placeVolumes vs).placePorts ps

/-- An assembled cluster is the skeleton of its plan with attachments placed by the resolver. -/
theorem exists_placements {resolver : Resolver} {p : Plan} {c : Cluster}
    (h : (assemble resolver p).result = .ok c) :
    ∃ vs ps, List.Forall₂ (Answers resolver (nodeRoles p)) p.volumes.entries vs ∧
      List.Forall₂ (AnswersPort resolver (addressableRoles p)) p.ports.entries ps ∧
      c = placed p vs ps := by
  simp only [assemble, Noted.bind_eq_ok_iff, Noted.result_pure, Except.ok.injEq] at h
  obtain ⟨_, _, d₁, h₁, _, _, d₂, h₂, rfl⟩ := h
  obtain ⟨vs, hvs, hv⟩ := Draft.exists_placements_of_volumes h₁
  obtain ⟨ps, hps, hp⟩ := Draft.exists_placements_of_ports h₂
  rw [map_role_skeleton] at hvs
  rw [hv, map_role_addressable_placeVolumes, map_role_addressable_skeleton] at hps
  rw [hv] at hp
  exact ⟨vs, ps, hvs, hps, hp⟩

/-- A built cluster is the skeleton of the plan of its options with attachments placed. -/
theorem exists_placements_of_build {ctx : BuildContext} {o : Options} {c : Cluster}
    (h : (build ctx o).result = .ok c) :
    ∃ p vs ps, Plan.Meets ctx.toSurroundings o p ∧
      List.Forall₂ (Answers ctx.resolver (nodeRoles p)) p.volumes.entries vs ∧
      List.Forall₂ (AnswersPort ctx.resolver (addressableRoles p)) p.ports.entries ps ∧
      c = placed p vs ps := by
  simp only [build, Noted.bind_eq_ok_iff, Noted.result_mapError, Outcome.mapError_eq_ok_iff] at h
  obtain ⟨p, hp, ha⟩ := h
  obtain ⟨vs, ps, hvs, hps, hc⟩ := exists_placements ha
  exact ⟨p, vs, ps, Plan.meets_of_ofOptions hp, hvs, hps, hc⟩

/-! ## Placing by roles -/

section Roles

variable {roles : List Role} {as : List Attachment} {ps : List Placement}

theorem Answers.select {a : Attachment} {p : Placement} (h : Answers roleResolver roles a p) :
    (select roles a.filters).result = .ok p.chosen := by
  obtain ⟨-, _, _, rfl, h⟩ := h
  exact h

/-- A candidate is given an attachment once or not at all, in the order of the attachments. -/
theorem given_sublist (h : List.Forall₂ (Answers roleResolver roles) as ps) (i : Nat) :
    (given ps i).Sublist (as.map Attachment.spec) := by
  induction h with
  | nil => exact List.Sublist.refl _
  | @cons a p as ps h _ ih =>
    have hnodup : p.chosen.Nodup := List.nodup_range.sublist (select_sublist h.select)
    have hone : (List.replicate (p.chosen.count i) p.spec).Sublist [a.spec] := by
      rw [← h.1, ← List.replicate_one, List.replicate_sublist_replicate]
      exact List.nodup_iff_count_le_one.1 hnodup i
    exact hone.append ih

/-- A candidate is given the attachments whose filters select it. -/
theorem mem_given (h : List.Forall₂ (Answers roleResolver roles) as ps) {i : Nat}
    (hi : i < roles.length) {spec : String} :
    spec ∈ given ps i ↔ ∃ a ∈ as, a.spec = spec ∧ Selected roles a.filters i := by
  induction h with
  | nil => simp [given]
  | @cons a p as ps h _ ih =>
    have hp : spec ∈ List.replicate (p.chosen.count i) p.spec ↔
        a.spec = spec ∧ Selected roles a.filters i := by
      rw [List.mem_replicate, h.1, ← Nat.pos_iff_ne_zero, List.count_pos_iff, mem_of_select h.select,
        and_iff_right hi, and_comm, eq_comm]
    rw [List.exists_mem_cons_iff, ← hp, ← ih]
    exact List.mem_append

/-- An attachment is given to some candidate, unless it has no filters and there are no
candidates. -/
theorem exists_selected {a : Attachment} {p : Placement} (h : Answers roleResolver roles a p)
    (hne : a.filters ≠ [] ∨ roles ≠ []) : ∃ i < roles.length, Selected roles a.filters i := by
  by_cases hf : a.filters = []
  · have hr : roles ≠ [] := hne.resolve_left (not_not_intro hf)
    exact ⟨0, List.length_pos_iff.2 hr, .inl hf⟩
  · obtain ⟨i, hi⟩ := List.exists_mem_of_ne_nil _ (ne_nil_of_select h.select hf)
    exact ⟨i, (mem_of_select h.select).1 hi⟩

/-- Where no position beyond the candidates is chosen, the load balancer is given what is chosen for
the position after the nodes. -/
theorem addressable_placePorts {c : Cluster}
    (h : List.Forall₂ (Answers roleResolver (c.addressable.map Node.role)) as ps) :
    (c.placePorts ps).addressable = c.addressable.mapIdx fun i n => n.addPorts (given ps i) := by
  simp only [addressable, placePorts, List.mapIdx_append]
  congr 1
  cases hl : c.loadBalancer? with
  | none => rfl
  | some lb =>
    have hlast : givenFrom ps c.nodes.length = given ps c.nodes.length := by
      have hlen : (c.addressable.map Node.role).length = c.nodes.length + 1 := by
        simp [addressable, hl]
      induction h with
      | nil => rfl
      | @cons a p as ps h _ ih =>
        have hc : p.chosen.countP (c.nodes.length ≤ ·) = p.chosen.count c.nodes.length := by
          refine List.countP_congr fun i hi => ?_
          have hlt := ((mem_of_select h.select).1 hi).1
          rw [hlen] at hlt
          simp only [decide_eq_true_eq, beq_iff_eq]
          omega
        rw [givenFrom, List.flatMap_cons, hc]
        exact congrArg _ ih
    simp [hlast]

end Roles

end Cluster
end ClusterPlan
