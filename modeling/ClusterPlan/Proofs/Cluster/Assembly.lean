import ClusterPlan.Proofs.Cluster.Placement

/-!
# Assembling by roles

The resolver that goes by roles does not remember what it was asked, and attachments leave the roles of
nodes alone. So each attachment is placed as if it were the only one (`Placement.ofVolume`,
`Placement.ofPort`), and assembling a plan comes down to placing first its volumes and then its ports
(`Cluster.result_assemble`).
-/

namespace ClusterPlan

namespace Placement

/-- Where a volume is placed among candidates with these roles. -/
def ofVolume (roles : List Role) (a : Attachment) : Except TopologyError Placement :=
  ((select roles a.filters).result.mapError (.filter a.spec)).map fun chosen => ⟨a.spec, chosen⟩

/-- Where a port is placed among candidates with these roles. -/
def ofPort (roles : List Role) (a : Attachment) : Except TopologyError Placement :=
  if a.filters = [] ∧ 1 < roles.length then .error (.ambiguousPort a.spec) else ofVolume roles a

end Placement

namespace Cluster

variable {roles : List Role} {a : Attachment} {q : Placement}

theorem answers_of_ofVolume (h : Placement.ofVolume roles a = .ok q) :
    Answers roleResolver roles a q := by
  obtain ⟨chosen, hselect, rfl⟩ := Outcome.map_eq_ok_iff.1 h
  let candidates : List Node := roles.map fun r => { Node.loadBalancer with role := r }
  have hroles : candidates.map Node.role = roles := by
    rw [List.map_map]
    exact List.map_id roles
  refine ⟨rfl, [], candidates, hroles, ?_⟩
  rw [roleResolver, hroles]
  exact Outcome.mapError_eq_ok_iff.1 hselect

namespace Draft

theorem result_attachVolume (d : Draft) (a : Attachment) :
    ((attachVolume roleResolver d a).result).map Draft.cluster =
      (Placement.ofVolume (d.cluster.nodes.map Node.role) a).map
        fun q => d.cluster.placeVolumes [q] := by
  simp only [attachVolume, Noted.result_bind, Noted.result_pure, foldl_addVolume, ask,
    Noted.result_mapError, roleResolver, Placement.ofVolume]
  cases (select (d.cluster.nodes.map Node.role) a.filters).result <;> rfl

theorem result_attachPort (d : Draft) (a : Attachment) :
    ((attachPort roleResolver d a).result).map Draft.cluster =
      (Placement.ofPort (d.cluster.addressable.map Node.role) a).map
        fun q => d.cluster.placePorts [q] := by
  simp only [attachPort, Placement.ofPort, List.length_map]
  by_cases h : a.filters = [] ∧ 1 < d.cluster.addressable.length
  · rw [if_pos h, if_pos h]
    rfl
  · rw [if_neg h, if_neg h]
    simp only [Noted.result_bind, Noted.result_pure, foldl_addPort, ask, Noted.result_mapError,
      roleResolver, Placement.ofVolume]
    cases (select (d.cluster.addressable.map Node.role) a.filters).result <;> rfl

/-- A run over attachments places them all, if each step places one of them by the roles of the
candidates, and placing leaves these roles alone. -/
theorem map_cluster_foldlM (roles : Cluster → List Role)
    {attach : Draft → Attachment → Noted TopologyError Draft}
    {one : List Role → Attachment → Except TopologyError Placement}
    {place : Cluster → List Placement → Cluster} (hnil : ∀ c, place c [] = c)
    (happend : ∀ c ps qs, place (place c ps) qs = place c (ps ++ qs))
    (hroles : ∀ c ps, roles (place c ps) = roles c)
    (hstep : ∀ d a, (attach d a).result.map Draft.cluster =
      (one (roles d.cluster) a).map fun q => place d.cluster [q])
    (as : List Attachment) (d : Draft) :
    (as.foldlM attach d).result.map Draft.cluster =
      (as.mapM (one (roles d.cluster))).map (place d.cluster) := by
  induction as generalizing d with
  | nil => exact congrArg Except.ok (hnil d.cluster).symm
  | cons a as ih =>
    rw [List.foldlM_cons, Noted.result_bind, List.mapM_cons, Outcome.map_bind]
    refine Outcome.map_bind.trans (Outcome.bind_eq_bind_of_map_eq (hstep d a) fun d' q hd => ?_)
    rw [ih, hd, hroles]
    cases as.mapM (one (roles d.cluster)) with
    | error => rfl
    | ok qs => exact congrArg Except.ok (happend d.cluster [q] qs)

end Draft

/-- Assembling a plan places its volumes, each by itself, and then its ports. -/
theorem result_assemble (p : Plan) : (assemble roleResolver p).result = do
    let vs ← p.volumes.entries.mapM (Placement.ofVolume (nodeRoles p))
    let ps ← p.ports.entries.mapM (Placement.ofPort (addressableRoles p))
    return placed p vs ps := by
  have hvolumes := Draft.map_cluster_foldlM (fun c => c.nodes.map Node.role) placeVolumes_nil
    placeVolumes_placeVolumes map_role_placeVolumes Draft.result_attachVolume
    p.volumes.entries ⟨skeleton p, []⟩
  have hports := Draft.map_cluster_foldlM (fun c => c.addressable.map Node.role) placePorts_nil
    placePorts_placePorts map_role_addressable_placePorts Draft.result_attachPort p.ports.entries
  simp only [map_role_skeleton] at hvolumes
  simp only [assemble, Noted.result_bind, Noted.result_tell, Noted.result_pure]
  refine Outcome.bind_eq_bind_of_map_eq hvolumes fun d vs hd => ?_
  have hroles : d.cluster.addressable.map Node.role = addressableRoles p := by
    rw [hd, map_role_addressable_placeVolumes, map_role_addressable_skeleton]
  have hports := hports d
  rw [hroles, hd] at hports
  exact Outcome.bind_eq_bind_of_map_eq hports fun d' ps hd' => congrArg Except.ok hd'

/-- A built cluster is what placing attachments makes of the plan of the options. -/
theorem build_eq_ok_iff {ctx : BuildContext} (hr : ctx.resolver = roleResolver) {o : Options}
    {c : Cluster} : (build ctx o).result = .ok c ↔
      ∃ p vs ps, Plan.Meets ctx.toSurroundings o p ∧
        p.volumes.entries.mapM (Placement.ofVolume (nodeRoles p)) = .ok vs ∧
        p.ports.entries.mapM (Placement.ofPort (addressableRoles p)) = .ok ps ∧ c = placed p vs ps := by
  simp only [build, Noted.bind_eq_ok_iff, Noted.result_mapError, Outcome.mapError_eq_ok_iff,
    Plan.ofOptions_eq_ok_iff, hr, result_assemble, Outcome.bind_eq_ok_iff]
  constructor
  · rintro ⟨p, hp, vs, hvs, ps, hps, hc⟩
    exact ⟨p, vs, ps, hp, hvs, hps, (Except.ok.inj hc).symm⟩
  · rintro ⟨p, vs, ps, hp, hvs, hps, rfl⟩
    exact ⟨p, hp, vs, hvs, ps, hps, rfl⟩

end Cluster
end ClusterPlan
