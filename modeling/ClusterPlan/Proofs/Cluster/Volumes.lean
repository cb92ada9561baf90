import ClusterPlan.Proofs.Attachment
import ClusterPlan.Proofs.Cluster.Skeleton

/-!
# Where volumes are mounted

`Cluster.PlacesVolumes` says which node has which mounts, given what the volume flags ask for, and
`Cluster.placesVolumes_of_build` that every built cluster has its mounts there, through all stages: the
flags are split and read, those of one mount are merged, their filters are read and their members
ranked by role.
-/

namespace ClusterPlan

/-- The entry of a mount selects a node if no volume of that mount has a filter, or one of their
filters selects it. -/
theorem AttachmentMap.Collects.exists_selected_iff {vs : List Attachment} {m : AttachmentMap}
    (h : Collects vs m) {roles : List Role} {i : Nat} {mount : String} :
    (∃ e ∈ m.entries, e.spec = mount ∧ Selected roles e.filters i) ↔
      (∃ v ∈ vs, v.spec = mount) ∧ ((∀ v ∈ vs, v.spec = mount → v.filters = []) ∨
        ∃ v ∈ vs, v.spec = mount ∧ ∃ text ∈ v.filters, TextSelects roles i text) := by
  constructor
  · rintro ⟨e, he, rfl, hs⟩
    refine ⟨h.exists_volume he, ?_⟩
    rcases hs with hs | ⟨text, ht, hs⟩
    · exact .inl ((h.filters_eq_nil_iff he).1 hs)
    · obtain ⟨v, hv, hspec, hf⟩ := (h.mem_filters he).1 ht
      exact .inr ⟨v, hv, hspec, text, hf, hs⟩
  · rintro ⟨⟨v, hv, rfl⟩, hs⟩
    obtain ⟨e, he, hspec⟩ := h.exists_entry hv
    refine ⟨e, he, hspec, ?_⟩
    rcases hs with hs | ⟨w, hw, hws, text, ht, hs⟩
    · exact .inl ((h.filters_eq_nil_iff he).2 fun w hw hws => hs w hw (hws.trans hspec))
    · exact .inr ⟨text, (h.mem_filters he).2 ⟨w, hw, hws.trans hspec.symm, ht⟩, hs⟩

namespace Cluster

/-- Where volumes are mounted, if the volume flags ask for `vs` in their order. -/
structure PlacesVolumes (vs : List Attachment) (c : Cluster) : Prop where
  /-- No node has a mount twice. -/
  nodup {i : Nat} {n : Node} (h : c.nodes[i]? = some n) : n.volumes.Nodup
  /-- A node has the mounts that are asked for without filters only, or with a filter that selects
  it. -/
  mem_iff {i : Nat} {n : Node} (h : c.nodes[i]? = some n) {mount : String} :
    mount ∈ n.volumes ↔ (∃ v ∈ vs, v.spec = mount) ∧
      ((∀ v ∈ vs, v.spec = mount → v.filters = []) ∨
        ∃ v ∈ vs, v.spec = mount ∧ ∃ text ∈ v.filters, TextSelects (c.nodes.map Node.role) i text)
  /-- The mounts of a node stand in the order of the flags that first ask for them. -/
  order {i : Nat} {n : Node} (h : c.nodes[i]? = some n) :
    n.volumes.Pairwise fun s t =>
      (vs.map Attachment.spec).idxOf s < (vs.map Attachment.spec).idxOf t
  loadBalancer {n : Node} (h : c.loadBalancer? = some n) : n.volumes = []

theorem map_role_placed (p : Plan) (vs ps : List Placement) :
    (placed p vs ps).nodes.map Node.role = nodeRoles p := by
  rw [map_role_placePorts, map_role_placeVolumes, map_role_skeleton]

/-- Volumes are mounted where the flags ask for them. -/
theorem placesVolumes_of_build {ctx : BuildContext} {o : Options} {c : Cluster}
    (hr : ctx.resolver = roleResolver) (h : (build ctx o).result = .ok c) :
    ∃ vs, o.volumes.mapM (Plan.volume ctx.toSurroundings) = .ok vs ∧ PlacesVolumes vs c := by
  obtain ⟨p, qs, ps, hp, hqs, -, rfl⟩ := exists_placements_of_build h
  obtain ⟨vs, hvs, hmap⟩ := hp.volumes
  have hcol := AttachmentMap.collects_ofVolumes vs
  rw [← hmap] at hcol
  rw [hr] at hqs
  have horder {i : Nat} {n : Node} (hn : (placed p qs ps).nodes[i]? = some n) :
      n.volumes.Pairwise fun s t =>
        (vs.map Attachment.spec).idxOf s < (vs.map Attachment.spec).idxOf t := by
    rw [(attached_of_getElem?_placed hn).1]
    exact hcol.order.sublist (given_sublist hqs i)
  refine ⟨vs, hvs, fun hn => ?_, fun {i n} hn mount => ?_, horder, fun hn => ?_⟩
  · refine (horder hn).imp fun hlt he => ?_
    rw [he] at hlt
    exact Nat.lt_irrefl _ hlt
  · have hi : i < (nodeRoles p).length := by
      rw [← map_role_placed p qs ps, List.length_map]
      exact (List.getElem?_eq_some_iff.1 hn).1
    rw [(attached_of_getElem?_placed hn).1, mem_given hqs hi, hcol.exists_selected_iff, map_role_placed]
  · exact ((hasTopology_placed p qs ps).loadBalancer hn).2.2.2.1

/-- Volumes on a master and two workers, of which one mount is asked for in two flags, one is asked for
with and without a filter, and one for all nodes and for no role that exists. -/
theorem exists_placesVolumes : ∃ c,
    (build {} {
      workers := some 2
      volumes := ["/c:/d:ro@worker[1:];master", "/a", "/b@all;agent[x]", "/a@worker[+0]",
        "/c:/d:ro@worker[0:0]"] }).result = .ok c ∧
    c.nodes.map Node.volumes =
      [["/c:/d:ro", "/b:/b"], ["/c:/d:ro", "/a:/a", "/b:/b"], ["/c:/d:ro", "/b:/b"]] ∧
    ∃ vs, PlacesVolumes vs c := by
  refine Noted.exists_of_map_eq_some (by decide +kernel) fun c h => ?_
  obtain ⟨vs, -, hplaces⟩ := placesVolumes_of_build rfl h
  exact ⟨vs, hplaces⟩

end Cluster
end ClusterPlan
