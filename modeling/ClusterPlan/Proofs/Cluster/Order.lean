import ClusterPlan.Proofs.Cluster.Assembly
import ClusterPlan.Proofs.Cluster.Volumes

/-!
# The order of attachments

In which order volumes and ports are asked for makes no difference to what a cluster is, apart from the
order in which they stand on its nodes (`Cluster.sameButOrder_of_perm`). Ports are kept as they are given
and each is placed by itself, so another order gives the same placements in another order. Volumes of
one mount are merged, and what matters of the merged filters is which of them there are.
-/

namespace ClusterPlan

/-- Nodes that differ in the order of their volumes only. -/
def Node.SameButVolumes (n n' : Node) : Prop :=
  ∃ volumes, volumes.Perm n.volumes ∧ n' = { n with volumes }

/-- Nodes that differ in the order of their ports only. -/
def Node.SameButPorts (n n' : Node) : Prop :=
  ∃ ports, ports.Perm n.ports ∧ n' = { n with ports }

/-- Clusters that are the same but for their nodes and load balancers, which correspond. -/
structure Cluster.SameBut (R : Node → Node → Prop) (c c' : Cluster) : Prop where
  nodes : List.Forall₂ R c.nodes c'.nodes
  loadBalancer : Option.Rel R c.loadBalancer? c'.loadBalancer?
  others : c' = { c with nodes := c'.nodes, loadBalancer? := c'.loadBalancer? }

namespace Plan

variable {around : Surroundings} {o : Options} {p : Plan}

/-- Ports in another order make a plan with the same ports in another order. -/
theorem Meets.perm_ports (h : Meets around o p) {ports : List String} (hp : ports.Perm o.ports) :
    ∃ m : AttachmentMap, m.entries.Perm p.ports.entries ∧
      Meets around { o with ports } { p with ports := m } := by
  obtain ⟨ps, hps, hmap⟩ := h.ports
  obtain ⟨ps', hps', hperm⟩ := Outcome.exists_mapM_of_perm hp hps
  obtain ⟨hle, hnodup, hentries⟩ := AttachmentMap.ofPorts_eq_ok_iff.1 hmap
  have hmap' : AttachmentMap.ofPorts ps' = .ok ⟨ps'⟩ := by
    refine AttachmentMap.ofPorts_eq_ok_iff.2 ⟨fun a ha => hle a (hperm.mem_iff.1 ha), ?_, rfl⟩
    exact (hperm.map Attachment.spec).nodup_iff.2 hnodup
  exact ⟨⟨ps'⟩, hentries ▸ hperm, { h with ports := ⟨ps', hps', hmap'⟩ }⟩

/-- Volumes in another order make a plan that differs in its volumes only. -/
theorem Meets.perm_volumes (h : Meets around o p) {volumes : List String}
    (hp : volumes.Perm o.volumes) :
    ∃ vs vs', vs'.Perm vs ∧ p.volumes = AttachmentMap.ofVolumes vs ∧
      Meets around { o with volumes } { p with volumes := AttachmentMap.ofVolumes vs' } := by
  obtain ⟨vs, hvs, hmap⟩ := h.volumes
  obtain ⟨vs', hvs', hperm⟩ := Outcome.exists_mapM_of_perm hp hvs
  exact ⟨vs, vs', hperm, hmap, { h with volumes := ⟨vs', hvs', rfl⟩ }⟩

/-- Options have one plan. -/
theorem Meets.unique {p' : Plan} (h : Meets around o p) (h' : Meets around o p') : p = p' :=
  Except.ok.inj ((ofOptions_eq_ok_iff.2 h).symm.trans (ofOptions_eq_ok_iff.2 h'))

end Plan

namespace Cluster

theorem forall₂_mapIdx {R : Node → Node → Prop} {ns : List Node} {f g : Nat → Node → Node}
    (h : ∀ i (hi : i < ns.length), R (f i ns[i]) (g i ns[i])) :
    List.Forall₂ R (ns.mapIdx f) (ns.mapIdx g) := by
  rw [List.forall₂_iff_get]
  refine ⟨by simp, fun i hi _ => ?_⟩
  rw [List.length_mapIdx] at hi
  simpa using h i hi

/-- Placing ports in another order changes the order of the ports only. -/
theorem sameBut_placePorts {ps ps' : List Placement} (h : ps'.Perm ps) (c : Cluster) :
    SameBut Node.SameButPorts (c.placePorts ps) (c.placePorts ps') := by
  have hgiven (i : Nat) : (Placement.given ps' i).Perm (Placement.given ps i) := h.flatMap_right _
  have hfrom (n : Nat) : (Placement.givenFrom ps' n).Perm (Placement.givenFrom ps n) :=
    h.flatMap_right _
  have hports {n : Node} {given given' : List String} (hg : given'.Perm given) :
      Node.SameButPorts (n.addPorts given) (n.addPorts given') :=
    ⟨n.ports ++ given', hg.append_left n.ports, rfl⟩
  refine ⟨forall₂_mapIdx fun i _ => hports (hgiven i), ?_, rfl⟩
  simp only [placePorts]
  cases c.loadBalancer? with
  | none => exact .none
  | some lb => exact .some (hports (hfrom _))

/-- Ports may be asked for in any order. -/
theorem exists_build_of_perm_ports {ctx : BuildContext} (hr : ctx.resolver = roleResolver)
    {o : Options} {ports : List String} (hp : ports.Perm o.ports) {c : Cluster}
    (h : (build ctx o).result = .ok c) :
    ∃ c', (build ctx { o with ports }).result = .ok c' ∧ SameBut Node.SameButPorts c c' := by
  obtain ⟨p, vs, ps, hm, hvs, hps, rfl⟩ := (build_eq_ok_iff hr).1 h
  obtain ⟨m, hentries, hm'⟩ := hm.perm_ports hp
  obtain ⟨ps', hps', hperm⟩ := Outcome.exists_mapM_of_perm hentries hps
  have hbuild : (build ctx { o with ports }).result = .ok (placed p vs ps') :=
    (build_eq_ok_iff hr).2 ⟨{ p with ports := m }, vs, ps', hm', hvs, hps', rfl⟩
  exact ⟨_, hbuild, sameBut_placePorts hperm _⟩

/-- Volumes that are asked for in another order are given to the same candidates. -/
theorem given_perm {roles : List Role} {vs vs' : List Attachment} {qs qs' : List Placement}
    (hp : vs'.Perm vs)
    (h : (AttachmentMap.ofVolumes vs).entries.mapM (Placement.ofVolume roles) = .ok qs)
    (h' : (AttachmentMap.ofVolumes vs').entries.mapM (Placement.ofVolume roles) = .ok qs')
    {i : Nat} (hi : i < roles.length) :
    (Placement.given qs' i).Perm (Placement.given qs i) := by
  have hcol := AttachmentMap.collects_ofVolumes vs
  have hcol' := AttachmentMap.collects_ofVolumes vs'
  have hans := (Outcome.mapM_eq_ok_iff.1 h).imp fun _ _ => answers_of_ofVolume
  have hans' := (Outcome.mapM_eq_ok_iff.1 h').imp fun _ _ => answers_of_ofVolume
  have hnodup := hcol.nodup.sublist (given_sublist hans i)
  have hnodup' := hcol'.nodup.sublist (given_sublist hans' i)
  refine (List.perm_ext_iff_of_nodup hnodup' hnodup).2 fun mount => ?_
  rw [mem_given hans hi, mem_given hans' hi, hcol.exists_selected_iff, hcol'.exists_selected_iff]
  simp only [hp.mem_iff]

/-- Giving the nodes their volumes in another order changes the order of the volumes only. -/
theorem sameBut_placeVolumes {p : Plan} {qs qs' : List Placement}
    (h : ∀ i < (nodeRoles p).length, (Placement.given qs' i).Perm (Placement.given qs i))
    (ps : List Placement) : SameBut Node.SameButVolumes (placed p qs ps) (placed p qs' ps) ∧
      (placed p qs' ps).loadBalancer? = (placed p qs ps).loadBalancer? := by
  have hlb : (placed p qs' ps).loadBalancer? = (placed p qs ps).loadBalancer? := by
    simp [placePorts, placeVolumes]
  refine ⟨⟨?_, ?_, rfl⟩, hlb⟩
  · simp only [placePorts, placeVolumes, List.mapIdx_mapIdx]
    refine forall₂_mapIdx fun i hi => ?_
    rw [← map_role_skeleton, List.length_map] at h
    exact ⟨_, (h i hi).append_left _, rfl⟩
  · rw [hlb]
    cases (placed p qs ps).loadBalancer? with
    | none => exact .none
    | some lb => exact .some ⟨lb.volumes, .refl _, rfl⟩

/-- Volumes that are asked for in another order stand on the same nodes. -/
theorem sameBut_of_perm_volumes {ctx : BuildContext} (hr : ctx.resolver = roleResolver)
    {o : Options} {volumes : List String} (hp : volumes.Perm o.volumes) {c c' : Cluster}
    (h : (build ctx o).result = .ok c) (h' : (build ctx { o with volumes }).result = .ok c') :
    SameBut Node.SameButVolumes c c' ∧ c'.loadBalancer? = c.loadBalancer? := by
  obtain ⟨p, qs, ps, hm, hqs, hps, rfl⟩ := (build_eq_ok_iff hr).1 h
  obtain ⟨p', qs', ps', hm', hqs', hps', rfl⟩ := (build_eq_ok_iff hr).1 h'
  obtain ⟨vs, vs', hperm, hmap, hm₁⟩ := hm.perm_volumes hp
  have hplan := hm'.unique hm₁
  subst hplan
  -- The plans have the same ports, which are placed among the same roles.
  have hports : ps' = ps := Except.ok.inj (hps'.symm.trans hps)
  subst hports
  rw [hmap] at hqs
  exact sameBut_placeVolumes (fun i hi => given_perm hperm hqs hqs' hi) ps'

/-- The order in which volumes and ports are asked for makes no difference but to their order on the
nodes. Ports may be asked for in any order where they may in one. -/
theorem sameButOrder_of_perm {ctx : BuildContext} (hr : ctx.resolver = roleResolver) (o : Options) :
    (∀ ports, ports.Perm o.ports →
      ((∃ c, (build ctx { o with ports }).result = .ok c) ↔ ∃ c, (build ctx o).result = .ok c) ∧
      ∀ c c', (build ctx o).result = .ok c → (build ctx { o with ports }).result = .ok c' →
        SameBut Node.SameButPorts c c') ∧
    ∀ volumes, volumes.Perm o.volumes → ∀ c c', (build ctx o).result = .ok c →
      (build ctx { o with volumes }).result = .ok c' →
        SameBut Node.SameButVolumes c c' ∧ c'.loadBalancer? = c.loadBalancer? := by
  refine ⟨fun ports hp => ⟨⟨fun ⟨c, h⟩ => ?_, fun ⟨c, h⟩ => ?_⟩, fun c c' h h' => ?_⟩,
    fun volumes hp c c' h h' => sameBut_of_perm_volumes hr hp h h'⟩
  · obtain ⟨c', h', -⟩ := exists_build_of_perm_ports hr hp.symm h
    exact ⟨c', h'⟩
  · obtain ⟨c', h', -⟩ := exists_build_of_perm_ports hr hp h
    exact ⟨c', h'⟩
  · obtain ⟨c₁, h₁, hsame⟩ := exists_build_of_perm_ports hr hp h
    have heq : c₁ = c' := Except.ok.inj (h₁.symm.trans h')
    rwa [heq] at hsame

/-- A master and a worker with volumes and ports, and the clusters with each of these in another
order. -/
theorem exists_sameButOrder :
    let o : Options := {
      workers := some 1
      volumes := ["/a@master", "/b@all", "/b@agent", "/a@worker[0]"]
      ports := ["443:443@loadbalancer", "80:80@all"] }
    let ports := ["80:80@all", "443:443@loadbalancer"]
    let volumes := ["/b@all", "/a@worker[0]", "/b@agent", "/a@master"]
    ∃ c c₁ c₂, (build {} o).result = .ok c ∧ (build {} { o with ports }).result = .ok c₁ ∧
      (build {} { o with volumes }).result = .ok c₂ ∧
      (c.addressable.map Node.ports = [["80:80"], ["80:80"], ["443:443", "80:80"]] ∧
        c₁.addressable.map Node.ports = [["80:80"], ["80:80"], ["80:80", "443:443"]] ∧
        SameBut Node.SameButPorts c c₁) ∧
      (c.nodes.map Node.volumes = [["/a:/a", "/b:/b"], ["/a:/a", "/b:/b"]] ∧
        c₂.nodes.map Node.volumes = [["/b:/b", "/a:/a"], ["/b:/b", "/a:/a"]] ∧
        SameBut Node.SameButVolumes c c₂) := by
  intro o ports volumes
  have hr : ({} : BuildContext).resolver = roleResolver := rfl
  obtain ⟨hports, hvolumes⟩ := sameButOrder_of_perm hr o
  have hp : ports.Perm o.ports := by decide +kernel
  have hv : volumes.Perm o.volumes := by decide +kernel
  obtain ⟨c, h, hc, -⟩ : ∃ c, (build {} o).result = .ok c ∧
      (c.addressable.map Node.ports, c.nodes.map Node.volumes) =
        ([["80:80"], ["80:80"], ["443:443", "80:80"]], [["/a:/a", "/b:/b"], ["/a:/a", "/b:/b"]]) ∧
      True := Noted.exists_of_map_eq_some (by decide +kernel) fun _ _ => trivial
  obtain ⟨c₁, h₁, hc₁, hsame₁⟩ : ∃ c₁, (build {} { o with ports }).result = .ok c₁ ∧
      c₁.addressable.map Node.ports = [["80:80"], ["80:80"], ["80:80", "443:443"]] ∧
      SameBut Node.SameButPorts c c₁ :=
    Noted.exists_of_map_eq_some (by decide +kernel) fun c₁ h₁ => (hports ports hp).2 c c₁ h h₁
  obtain ⟨c₂, h₂, hc₂, hsame₂⟩ : ∃ c₂, (build {} { o with volumes }).result = .ok c₂ ∧
      c₂.nodes.map Node.volumes = [["/b:/b", "/a:/a"], ["/b:/b", "/a:/a"]] ∧
      SameBut Node.SameButVolumes c c₂ :=
    Noted.exists_of_map_eq_some (by decide +kernel) fun c₂ h₂ => (hvolumes volumes hv c c₂ h h₂).1
  obtain ⟨hcp, hcv⟩ := Prod.mk.inj hc
  exact ⟨c, c₁, c₂, h, h₁, h₂, ⟨hcp, hc₁, hsame₁⟩, hcv, hc₂, hsame₂⟩

end Cluster
end ClusterPlan
