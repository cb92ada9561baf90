import ClusterPlan.Proofs.Cluster.Assembly

/-!
# Attachments that cannot be placed

What keeps a volume or a port from being placed on the nodes of a cluster (`Cluster.VolumeFault`,
`Cluster.PortFault`), and which of all faults is reported: that of the first volume that has one, or else
that of the first port (`Cluster.tellsFirstFault_assemble`). An attachment has the same faults whatever
was placed before it, since its filters go by the roles of the nodes.
-/

namespace ClusterPlan.Cluster

/-- What keeps a volume from being placed on the nodes of a cluster: its filters. -/
inductive VolumeFault (c : Cluster) (a : Attachment) : TopologyError → Prop where
  | filter {source : FilterError}
    (h : (roleResolver [] { candidates := c.nodes, filters := a.filters }).result = .error source) :
    VolumeFault c a (.filter a.spec source)

/-- What keeps a port from being placed on the addressable nodes of a cluster: that it has no filter and
could be for several of them, or its filters. -/
inductive PortFault (c : Cluster) (a : Attachment) : TopologyError → Prop where
  | ambiguous (hf : a.filters = []) (hc : 1 < c.addressable.length) :
    PortFault c a (.ambiguousPort a.spec)
  | filter {source : FilterError} (hc : a.filters = [] → c.addressable.length ≤ 1)
    (h : (roleResolver [] { candidates := c.addressable, filters := a.filters }).result =
      .error source) :
    PortFault c a (.filter a.spec source)

/-- The first attachment of a list that has a fault has the fault `e`. -/
def FirstFault (fault : Attachment → TopologyError → Prop) (as : List Attachment)
    (e : TopologyError) : Prop :=
  ∃ before a after, as = before ++ a :: after ∧ (∀ b ∈ before, ∀ e, ¬ fault b e) ∧ fault a e

/-- Assembling a plan succeeds if all attachments can be placed, and otherwise reports the first that
cannot, volumes before ports. -/
structure TellsFirstFault (p : Plan) : Prop where
  exists_iff : (∃ c, (assemble roleResolver p).result = .ok c) ↔
    (∀ a ∈ p.volumes.entries, ∃ chosen, (roleResolver []
        { candidates := (skeleton p).nodes, filters := a.filters }).result = .ok chosen) ∧
      ∀ a ∈ p.ports.entries, (a.filters ≠ [] ∨ (skeleton p).addressable.length ≤ 1) ∧
        ∃ chosen, (roleResolver []
          { candidates := (skeleton p).addressable, filters := a.filters }).result = .ok chosen
  error_iff {e : TopologyError} : (assemble roleResolver p).result = .error e ↔
    FirstFault (VolumeFault (skeleton p)) p.volumes.entries e ∨
      (∀ a ∈ p.volumes.entries, ∀ e, ¬ VolumeFault (skeleton p) a e) ∧
        FirstFault (PortFault (skeleton p)) p.ports.entries e
  /-- After any volumes, a volume fails as it would without them. -/
  volume_alone {before : List Attachment} {d : Draft} {a : Attachment} {e : TopologyError}
    (h : (before.foldlM (Draft.attachVolume roleResolver) ⟨skeleton p, []⟩).result = .ok d) :
    (d.attachVolume roleResolver a).result = .error e ↔ VolumeFault (skeleton p) a e
  /-- After any volumes and ports, a port fails as it would without them. -/
  port_alone {volumes before : List Attachment} {d d' : Draft} {a : Attachment} {e : TopologyError}
    (hv : (volumes.foldlM (Draft.attachVolume roleResolver) ⟨skeleton p, []⟩).result = .ok d)
    (h : (before.foldlM (Draft.attachPort roleResolver) d).result = .ok d') :
    (d'.attachPort roleResolver a).result = .error e ↔ PortFault (skeleton p) a e

variable {c : Cluster} {a : Attachment} {e : TopologyError}

/-! ## One attachment -/

theorem volumeFault_iff :
    VolumeFault c a e ↔ Placement.ofVolume (c.nodes.map Node.role) a = .error e := by
  rw [Placement.ofVolume, Outcome.map_eq_error_iff, Outcome.mapError_eq_error_iff]
  constructor
  · rintro ⟨h⟩
    exact ⟨_, h, rfl⟩
  · rintro ⟨source, h, rfl⟩
    exact .filter h

theorem portFault_iff :
    PortFault c a e ↔ Placement.ofPort (c.addressable.map Node.role) a = .error e := by
  rw [Placement.ofPort, List.length_map]
  split
  · next h =>
    constructor
    · rintro (⟨-, -⟩ | ⟨hc, -⟩)
      · rfl
      · exact absurd (hc h.1) (Nat.not_le.2 h.2)
    · rintro ⟨⟩
      exact .ambiguous h.1 h.2
  · next h =>
    rw [Placement.ofVolume, Outcome.map_eq_error_iff, Outcome.mapError_eq_error_iff]
    constructor
    · rintro (⟨hf, hc⟩ | ⟨-, hs⟩)
      · exact absurd ⟨hf, hc⟩ h
      · exact ⟨_, hs, rfl⟩
    · rintro ⟨source, hs, rfl⟩
      exact .filter (fun hf => Nat.not_lt.1 fun hc => h ⟨hf, hc⟩) hs

theorem exists_ofVolume_iff {candidates : List Node} :
    (∃ q, Placement.ofVolume (candidates.map Node.role) a = .ok q) ↔
      ∃ chosen, (roleResolver [] { candidates, filters := a.filters }).result = .ok chosen := by
  simp only [Placement.ofVolume, Outcome.map_eq_ok_iff, Outcome.mapError_eq_ok_iff]
  constructor
  · rintro ⟨-, chosen, h, -⟩
    exact ⟨chosen, h⟩
  · rintro ⟨chosen, h⟩
    exact ⟨_, chosen, h, rfl⟩

theorem exists_ofPort_iff {candidates : List Node} :
    (∃ q, Placement.ofPort (candidates.map Node.role) a = .ok q) ↔
      (a.filters ≠ [] ∨ candidates.length ≤ 1) ∧
        ∃ chosen, (roleResolver [] { candidates, filters := a.filters }).result = .ok chosen := by
  rw [Placement.ofPort, List.length_map]
  split
  · next h =>
    constructor
    · rintro ⟨_, ⟨⟩⟩
    · rintro ⟨hf | hc, -⟩
      · exact absurd h.1 hf
      · exact absurd h.2 (Nat.not_lt.2 hc)
  · next h =>
    have hclear : a.filters ≠ [] ∨ candidates.length ≤ 1 := by
      rw [← Nat.not_lt]
      exact not_and_or.1 h
    rw [exists_ofVolume_iff, and_iff_right hclear]

/-! ## The first fault -/

section

variable {fault : Attachment → TopologyError → Prop}
  {place : Attachment → Except TopologyError Placement} {as : List Attachment}

theorem exists_mapM_iff_of_fault (h : ∀ a e, fault a e ↔ place a = .error e) :
    (∃ qs, as.mapM place = .ok qs) ↔ ∀ a ∈ as, ∀ e, ¬ fault a e := by
  rw [Outcome.exists_mapM_iff]
  simp only [Outcome.exists_eq_ok_iff, h, ne_eq]

theorem firstFault_iff (h : ∀ a e, fault a e ↔ place a = .error e) :
    FirstFault fault as e ↔ as.mapM place = .error e := by
  simp only [FirstFault, Outcome.mapM_eq_error_iff, Outcome.exists_eq_ok_iff, h, ne_eq]

end

/-! ## Assembling -/

theorem volumeFault_skeleton_iff {p : Plan} (a : Attachment) (e : TopologyError) :
    VolumeFault (skeleton p) a e ↔ Placement.ofVolume (nodeRoles p) a = .error e := by
  rw [volumeFault_iff, map_role_skeleton]

theorem portFault_skeleton_iff {p : Plan} (a : Attachment) (e : TopologyError) :
    PortFault (skeleton p) a e ↔ Placement.ofPort (addressableRoles p) a = .error e := by
  rw [portFault_iff, map_role_addressable_skeleton]

theorem exists_assemble_iff (p : Plan) : (∃ c, (assemble roleResolver p).result = .ok c) ↔
    (∃ vs, p.volumes.entries.mapM (Placement.ofVolume (nodeRoles p)) = .ok vs) ∧
      ∃ ps, p.ports.entries.mapM (Placement.ofPort (addressableRoles p)) = .ok ps := by
  simp only [result_assemble, Outcome.bind_eq_ok_iff]
  constructor
  · rintro ⟨-, vs, hvs, ps, hps, -⟩
    exact ⟨⟨vs, hvs⟩, ps, hps⟩
  · rintro ⟨⟨vs, hvs⟩, ps, hps⟩
    exact ⟨_, vs, hvs, ps, hps, rfl⟩

theorem assemble_eq_error_iff (p : Plan) : (assemble roleResolver p).result = .error e ↔
    p.volumes.entries.mapM (Placement.ofVolume (nodeRoles p)) = .error e ∨
      (∃ vs, p.volumes.entries.mapM (Placement.ofVolume (nodeRoles p)) = .ok vs) ∧
        p.ports.entries.mapM (Placement.ofPort (addressableRoles p)) = .error e := by
  simp only [result_assemble, Outcome.bind_eq_error_iff]
  refine or_congr_right ⟨?_, ?_⟩
  · rintro ⟨vs, hvs, hps | ⟨_, _, ⟨⟩⟩⟩
    exact ⟨⟨vs, hvs⟩, hps⟩
  · rintro ⟨⟨vs, hvs⟩, hps⟩
    exact ⟨vs, hvs, .inl hps⟩

/-- Assembling a plan places all attachments, or reports the first that cannot be placed. -/
theorem tellsFirstFault_assemble (p : Plan) : TellsFirstFault p where
  exists_iff := by
    rw [exists_assemble_iff, Outcome.exists_mapM_iff, Outcome.exists_mapM_iff, ← map_role_skeleton,
      ← map_role_addressable_skeleton]
    simp only [exists_ofVolume_iff, exists_ofPort_iff]
  error_iff {e} := by
    rw [assemble_eq_error_iff, firstFault_iff volumeFault_skeleton_iff,
      firstFault_iff portFault_skeleton_iff, exists_mapM_iff_of_fault volumeFault_skeleton_iff]
  volume_alone h := by
    have hroles := Draft.kept_of_foldlM Draft.HasRoles.attachVolume (Draft.hasRoles_skeleton p) h
    rw [← Outcome.map_eq_error_iff, Draft.result_attachVolume, Outcome.map_eq_error_iff,
      hroles.nodes, volumeFault_skeleton_iff]
  port_alone hv h := by
    have hvolumes := Draft.kept_of_foldlM Draft.HasRoles.attachVolume (Draft.hasRoles_skeleton p) hv
    have hroles := Draft.kept_of_foldlM Draft.HasRoles.attachPort hvolumes h
    rw [← Outcome.map_eq_error_iff, Draft.result_attachPort, Outcome.map_eq_error_iff,
      hroles.addressable, portFault_skeleton_iff]

/-- Of a volume for a node that is not there and a port that could be for several, the volume is told. -/
example : (build {} {
    workers := some 1
    volumes := ["/b@worker", "/a@worker[1:1]"]
    ports := ["8080:80"] }).result =
      .error (.topology (.filter "/a:/a" (.indexOutOfRange "worker[1:1]" 1 1))) := by
  decide +kernel

end ClusterPlan.Cluster
