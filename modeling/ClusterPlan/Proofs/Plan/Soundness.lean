import ClusterPlan.Proofs.ApiEndpoint
import ClusterPlan.Proofs.Attachment
import ClusterPlan.Proofs.Filter.Flag
import ClusterPlan.Proofs.Mount
import ClusterPlan.Proofs.Plan
import ClusterPlan.Proofs.PortMapping

/-!
# What holds of every plan

`Plan.IsSound` says what later stages may rely on, without the options that a plan was made of: the
parts of the plan fit together, and its mounts and mappings are written in the one way in which they are
written. Every plan that is made is sound (`Plan.isSound_of_ofOptions`), since each attachment that is
asked for is (`Plan.AsksForVolume.isSound`, `Plan.AsksForPort.isSound`) and the maps add none.
-/

namespace ClusterPlan

/-- A mount that is written as mounts are. -/
def IsMountText (isVolume : String → Bool) (spec : String) : Prop :=
  ∃ m, Mount.read isVolume spec = .ok m ∧ m.text = spec

/-- A mapping that is written as mappings are. -/
def IsMappingText (spec : String) : Prop :=
  ∃ m, PortMapping.read spec = .ok m ∧ m.text = spec

theorem Network.isHost_iff {n : Network} : n.isHost ↔ n.name = "host" :=
  decide_eq_true_iff

namespace Plan

/-- What every plan satisfies. -/
structure IsSound (around : Surroundings) (p : Plan) : Prop where
  external : p.network.external ↔ p.network.name ≠ ""
  hostNetwork (h : p.network.name = "host") : p.masters + p.workers ≤ 1 ∧ p.api.port = .fixed 6443
  api : p.api.IsSound
  timeout {d : Duration} (h : p.settings.timeout? = some d) : 0 < d.nanoseconds
  update (h : p.kubeconfig.switchContext) : p.kubeconfig.update
  waitForMaster (h : p.kubeconfig.update) : p.settings.waitForMaster
  volumes_nodup : p.volumes.specs.Nodup
  volumes {a : Attachment} (h : a ∈ p.volumes.entries) : IsMountText around.isVolume a.spec
  ports_nodup : p.ports.specs.Nodup
  ports {a : Attachment} (h : a ∈ p.ports.entries) : IsMappingText a.spec ∧ a.filters.length ≤ 1
  filters {a : Attachment} (h : a ∈ p.volumes.entries ∨ a ∈ p.ports.entries) {text : String}
    (ht : text ∈ a.filters) : Flag.IsTerm text

variable {around : Surroundings} {flag : String} {a : Attachment}

/-- A volume that is asked for is written as mounts are, and its filters are terms. -/
theorem AsksForVolume.isSound (h : AsksForVolume around flag a) :
    IsMountText around.isVolume a.spec ∧ ∀ text ∈ a.filters, Flag.IsTerm text := by
  obtain ⟨f, m, hf, hm, rfl⟩ := h
  exact ⟨⟨m, Mount.read_text hm, rfl⟩, fun text ht => Flag.isTerm_of_split hf ht⟩

theorem AsksForPort.isSound (h : AsksForPort flag a) :
    IsMappingText a.spec ∧ ∀ text ∈ a.filters, Flag.IsTerm text := by
  obtain ⟨f, m, hf, hm, rfl⟩ := h
  exact ⟨⟨m, PortMapping.read_text hm, rfl⟩, fun text ht => Flag.isTerm_of_split hf ht⟩

variable {o : Options} {p : Plan}

theorem isSound_of_endpoint {network : Network} {spec : Option String} {api : ApiEndpoint}
    (h : endpoint network spec = .ok api) :
    api.IsSound ∧ (network.name = "host" → api.port = .fixed 6443) := by
  obtain ⟨e, he, h⟩ := Outcome.bind_eq_ok_iff.1 h
  have hsound := ApiEndpoint.isSound_filled_of_read (Outcome.mapError_eq_ok_iff.1 he)
  have hapi : (if network.isHost then { e.filled with port := .fixed ApiPort.inner }
      else e.filled) = api := Except.ok.inj h
  rw [← hapi]
  split
  · exact ⟨hsound.setPort _, fun _ => rfl⟩
  · next hhost =>
    exact ⟨hsound, fun hname => absurd (Network.isHost_iff.2 hname) hhost⟩

theorem timeout_pos {text? : Option String} {d : Duration}
    (h : text?.mapM timeout = .ok (some d)) : 0 < d.nanoseconds := by
  cases text? with
  | none => cases h
  | some text =>
    rw [Option.mapM_some, map_eq_pure_bind] at h
    obtain ⟨d', hd, h⟩ := Outcome.bind_eq_ok_iff.1 h
    cases h
    exact (timeout_eq_ok_iff.1 hd).2.2

/-- The mounts of a map are those that are asked for, each of them once. -/
theorem isSound_of_volumes {vs : List Attachment} (h : o.volumes.mapM (volume around) = .ok vs) :
    (AttachmentMap.ofVolumes vs).specs.Nodup ∧ ∀ a ∈ (AttachmentMap.ofVolumes vs).entries,
      IsMountText around.isVolume a.spec ∧ ∀ text ∈ a.filters, Flag.IsTerm text := by
  have hasked := Outcome.forall_of_mapM (fun _ _ hv => (volume_eq_ok_iff.1 hv).isSound) h
  have hcol := AttachmentMap.collects_ofVolumes vs
  refine ⟨hcol.nodup, fun a ha => ⟨?_, fun text ht => ?_⟩⟩
  · obtain ⟨v, hv, hspec⟩ := hcol.exists_volume ha
    rw [← hspec]
    exact (hasked v hv).1
  · obtain ⟨v, hv, -, hmem⟩ := (hcol.mem_filters ha).1 ht
    exact (hasked v hv).2 text hmem

/-- Every plan that is made of options is sound. -/
theorem isSound_of_ofOptions (h : (ofOptions around o).result = .ok p) : IsSound around p := by
  have hm : Meets around o p := meets_of_ofOptions h
  obtain ⟨hapi, hport⟩ := isSound_of_endpoint hm.api
  obtain ⟨vs, hvs, hvolumes⟩ := hm.volumes
  obtain ⟨hvnodup, hvsound⟩ := isSound_of_volumes hvs
  rw [← hvolumes] at hvnodup hvsound
  obtain ⟨ps, hps, hports⟩ := hm.ports
  obtain ⟨hle, hpnodup, hentries⟩ := AttachmentMap.ofPorts_eq_ok_iff.1 hports
  have hpsound := Outcome.forall_of_mapM (fun _ _ hp => (port_eq_ok_iff.1 hp).isSound) hps
  rw [← hentries] at hle hpnodup hpsound
  exact {
    external := by rw [hm.network]; simp [Network.ofName]
    hostNetwork := fun hhost => ⟨hm.hostNetwork (Network.isHost_iff.2 hhost), hport hhost⟩
    api := hapi
    timeout := fun hd => timeout_pos (hd ▸ hm.timeout?)
    update := by rw [hm.kubeconfig]; simp +contextual
    waitForMaster := fun hupdate => by rw [hm.waitForMaster, hupdate, Bool.or_true]
    volumes_nodup := hvnodup
    volumes := fun ha => (hvsound _ ha).1
    ports_nodup := hpnodup
    ports := fun ha => ⟨(hpsound _ ha).1, hle _ ha⟩
    filters := fun ha _ ht =>
      ha.elim (fun ha => (hvsound _ ha).2 _ ht) fun ha => (hpsound _ ha).2 _ ht }

/-- Options whose plan has another endpoint than they ask for, waits where they say not to, and has one
entry for the mount that two flags write differently. -/
theorem exists_isSound : ∃ p,
    (ofOptions { isVolume := fun name => name = "data" } {
      network := some "host", apiPort := some "10.0.0.7:random", timeout := some " 1m30s "
      switchContext := some true, wait := some false
      volumes := ["/a@master", "data:/d:ro", "/a:/a@all;worker[x]"]
      ports := ["localhost::080/UDP@master[0]", "0443-0445"] }).result = .ok p ∧
    (p.api, p.settings.waitForMaster, p.settings.timeout?.map Duration.milliseconds) =
      ({ host := "10.0.0.7", hostIP := "10.0.0.7", port := .fixed 6443 }, true, some 90000) ∧
    IsSound { isVolume := fun name => name = "data" } p := by
  refine Noted.exists_of_map_eq_some (by decide +kernel) fun p h => ?_
  exact isSound_of_ofOptions h

end Plan
end ClusterPlan
