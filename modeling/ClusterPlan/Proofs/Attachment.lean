import ClusterPlan.Attachment
import Mathlib.Data.List.Basic
import Mathlib.Data.List.Induction

/-!
# What attachment maps collect

A map made from volumes (`AttachmentMap.ofVolumes`) has each mount once, in the order in which the
mounts are first given, with all the filters that are given for it (`collects_ofVolumes`, by
`Collects.merge` for one more volume). A map made from ports keeps the ports as they are given, and
is made exactly if they differ and none has more than one filter (`ofPorts_eq_ok_iff`).
-/

namespace ClusterPlan.AttachmentMap

/-- The specifications of a map, in its order. -/
def specs (m : AttachmentMap) : List String :=
  m.entries.map Attachment.spec

theorem contains_iff {m : AttachmentMap} {spec : String} : m.contains spec ↔ spec ∈ m.specs := by
  simp [contains, get?, specs, List.find?_isSome]

/-! ## Volumes -/

theorem mem_mergeFilters {filters more : List String} {t : String} :
    t ∈ mergeFilters filters more ↔ t ∈ filters ∨ t ∈ more := by
  unfold mergeFilters
  induction more generalizing filters with
  | nil => simp
  | cons f more ih =>
    rw [List.foldl_cons, ih, List.mem_cons, ← or_assoc]
    refine or_congr_left ?_
    split
    · next hf => exact ⟨.inl, fun h => h.elim id fun e => e ▸ hf⟩
    · rw [List.mem_append, List.mem_singleton]

/-- What a map has collected from volumes given one after the other: each mount once, in the order in
which the mounts are first given, and with all the filters that are given for it. -/
structure Collects (vs : List Attachment) (m : AttachmentMap) : Prop where
  order : m.specs.Pairwise fun s t =>
    (vs.map Attachment.spec).idxOf s < (vs.map Attachment.spec).idxOf t
  mem_specs {s : String} : s ∈ m.specs ↔ s ∈ vs.map Attachment.spec
  mem_filters {e : Attachment} (he : e ∈ m.entries) {t : String} :
    t ∈ e.filters ↔ ∃ v ∈ vs, v.spec = e.spec ∧ t ∈ v.filters

variable {vs : List Attachment} {m : AttachmentMap}

theorem specs_merge (m : AttachmentMap) (a : Attachment) :
    (m.merge a).specs = if a.spec ∈ m.specs then m.specs else m.specs ++ [a.spec] := by
  unfold merge
  simp only [contains_iff]
  split
  · simp only [specs, List.map_map]
    refine List.map_congr_left fun e _ => ?_
    dsimp only [Function.comp_apply]
    split <;> rfl
  · simp [specs]

/-- An entry after a merge is one that was there, with more filters if it is for the same mount, or
it is new. -/
theorem mem_entries_merge {a e : Attachment} (he : e ∈ (m.merge a).entries) :
    (∃ d ∈ m.entries, e.spec = d.spec ∧
      ∀ t, t ∈ e.filters ↔ t ∈ d.filters ∨ d.spec = a.spec ∧ t ∈ a.filters) ∨
    a.spec ∉ m.specs ∧ e = a := by
  unfold merge at he
  simp only [contains_iff] at he
  split at he
  · obtain ⟨d, hd, rfl⟩ := List.mem_map.1 he
    refine .inl ⟨d, hd, ?_⟩
    split
    · next hs => exact ⟨rfl, fun t => by rw [mem_mergeFilters, and_iff_right hs]⟩
    · next hs => exact ⟨rfl, fun t => by simp [hs]⟩
  · next hnew =>
    rcases List.mem_append.1 he with hd | hd
    · have hne : e.spec ≠ a.spec := fun hs => hnew (hs ▸ List.mem_map_of_mem hd)
      exact .inl ⟨e, hd, rfl, fun t => by simp [hne]⟩
    · exact .inr ⟨hnew, List.mem_singleton.1 hd⟩

/-- One more volume. -/
theorem Collects.merge (h : Collects vs m) (a : Attachment) :
    Collects (vs ++ [a]) (m.merge a) where
  order := by
    have hidx : ∀ s ∈ m.specs, ((vs ++ [a]).map Attachment.spec).idxOf s =
        (vs.map Attachment.spec).idxOf s := fun s hs => by
      rw [List.map_append, List.idxOf_append_of_mem (h.mem_specs.1 hs)]
    have hold : m.specs.Pairwise fun s t => ((vs ++ [a]).map Attachment.spec).idxOf s <
        ((vs ++ [a]).map Attachment.spec).idxOf t := by
      refine h.order.imp_of_mem fun hs ht hlt => ?_
      rwa [hidx _ hs, hidx _ ht]
    rw [specs_merge]
    split
    · exact hold
    · next hnew =>
      refine List.pairwise_append.2 ⟨hold, List.pairwise_singleton _ _, fun s hs t ht => ?_⟩
      rw [List.mem_singleton.1 ht, hidx s hs, List.map_append,
        List.idxOf_append_of_notMem (mt h.mem_specs.2 hnew)]
      exact Nat.lt_of_lt_of_le (List.idxOf_lt_length_of_mem (h.mem_specs.1 hs)) (Nat.le_add_right ..)
  mem_specs {s} := by
    rw [specs_merge, List.map_append, List.mem_append, ← h.mem_specs]
    split
    · next hold => exact ⟨.inl, fun hs => hs.elim id fun hs => List.mem_singleton.1 hs ▸ hold⟩
    · exact List.mem_append
  mem_filters {e} he {t} := by
    simp only [List.mem_append, List.mem_singleton, or_and_right, exists_or, exists_eq_left]
    obtain ⟨d, hd, hs, hf⟩ | ⟨hnew, rfl⟩ := mem_entries_merge he
    · rw [hf, h.mem_filters hd, hs, eq_comm (a := a.spec)]
    · have hnone : ¬ ∃ v ∈ vs, v.spec = e.spec ∧ t ∈ v.filters := by
        rintro ⟨v, hv, hs, -⟩
        exact hnew (h.mem_specs.2 (hs ▸ List.mem_map_of_mem hv))
      simp [hnone]

/-- The map made from volumes has collected them all. -/
theorem collects_ofVolumes (vs : List Attachment) : Collects vs (ofVolumes vs) := by
  induction vs using List.reverseRecOn with
  | nil => exact ⟨List.Pairwise.nil, Iff.rfl, fun he => absurd he List.not_mem_nil⟩
  | append_singleton vs v ih =>
    rw [ofVolumes, List.foldl_append]
    exact ih.merge v

theorem Collects.nodup (h : Collects vs m) : m.specs.Nodup := by
  refine h.order.imp fun hlt he => ?_
  rw [he] at hlt
  exact Nat.lt_irrefl _ hlt

theorem Collects.filters_eq_nil_iff (h : Collects vs m) {e : Attachment} (he : e ∈ m.entries) :
    e.filters = [] ↔ ∀ v ∈ vs, v.spec = e.spec → v.filters = [] := by
  simp only [List.eq_nil_iff_forall_not_mem, h.mem_filters he, not_exists, not_and]
  exact ⟨fun hn v hv hs t => hn t v hv hs, fun hn t v hv hs => hn v hv hs t⟩

/-- Every mount that is given has an entry. -/
theorem Collects.exists_entry (h : Collects vs m) {v : Attachment} (hv : v ∈ vs) :
    ∃ e ∈ m.entries, e.spec = v.spec :=
  List.mem_map.1 (h.mem_specs.2 (List.mem_map_of_mem hv))

/-- Every entry is for a mount that is given. -/
theorem Collects.exists_volume (h : Collects vs m) {e : Attachment} (he : e ∈ m.entries) :
    ∃ v ∈ vs, v.spec = e.spec :=
  List.mem_map.1 (h.mem_specs.1 (List.mem_map_of_mem he))

/-! ## Ports -/

theorem insertPort_eq_ok_iff {a : Attachment} {m' : AttachmentMap} :
    m.insertPort a = .ok m' ↔
      a.filters.length ≤ 1 ∧ a.spec ∉ m.specs ∧ m'.entries = m.entries ++ [a] := by
  unfold insertPort insertUnique
  simp only [contains_iff]
  split
  · next hl => exact ⟨nofun, fun h => absurd hl (Nat.not_lt.2 h.1)⟩
  · next hl =>
    rw [and_iff_right (Nat.not_lt.1 hl)]
    split
    · next hs => exact ⟨nofun, fun h => absurd hs h.1⟩
    · next hs =>
      rw [and_iff_right hs]
      exact ⟨fun h => by cases h; rfl, fun h => by cases m'; cases h; rfl⟩

/-- Of several faults of a port, the number of its filters is reported. -/
theorem insertPort_eq_error_iff {a : Attachment} {e : AttachmentError} :
    m.insertPort a = .error e ↔
      1 < a.filters.length ∧ e = .tooManyPortFilters a.spec a.filters.length ∨
        a.filters.length ≤ 1 ∧ a.spec ∈ m.specs ∧ e = .duplicatePort a.spec := by
  unfold insertPort insertUnique
  simp only [contains_iff]
  split
  · next hl => simp [hl, Nat.not_le.2 hl, eq_comm]
  · next hl =>
    rw [or_iff_right fun h => hl h.1, and_iff_right (Nat.not_lt.1 hl)]
    split
    · next hs => rw [Except.error.injEq, and_iff_right hs, eq_comm]
    · next hs => exact ⟨nofun, fun h => absurd h.1 hs⟩

theorem foldlM_insertPort_eq_ok_iff {ps : List Attachment} {m' : AttachmentMap} :
    ps.foldlM insertPort m = .ok m' ↔
      (∀ a ∈ ps, a.filters.length ≤ 1) ∧ (ps.map Attachment.spec).Nodup ∧
        (∀ a ∈ ps, a.spec ∉ m.specs) ∧ m'.entries = m.entries ++ ps := by
  induction ps generalizing m with
  | nil =>
    simp only [List.foldlM_nil, List.not_mem_nil, false_implies, implies_true, List.map_nil,
      List.nodup_nil, List.append_nil, true_and]
    exact ⟨fun h => by cases h; rfl, fun h => by cases m; cases m'; cases h; rfl⟩
  | cons a ps ih =>
    rw [List.foldlM_cons]
    constructor
    · intro h
      cases hi : m.insertPort a with
      | error e => rw [hi] at h; cases h
      | ok m₁ =>
        rw [hi] at h
        obtain ⟨hl, hs, he⟩ := insertPort_eq_ok_iff.1 hi
        obtain ⟨hls, hnd, hss, he'⟩ := ih.1 h
        have hspecs : m₁.specs = m.specs ++ [a.spec] := by rw [specs, he, List.map_append]; rfl
        simp only [hspecs, List.mem_append, List.mem_singleton, not_or] at hss
        refine ⟨List.forall_mem_cons.2 ⟨hl, hls⟩, List.nodup_cons.2 ⟨?_, hnd⟩,
          List.forall_mem_cons.2 ⟨hs, fun b hb => (hss b hb).1⟩, ?_⟩
        · intro hm
          obtain ⟨b, hb, hab⟩ := List.mem_map.1 hm
          exact (hss b hb).2 hab
        · rw [he', he, List.append_assoc, List.singleton_append]
    · rintro ⟨hl, hnd, hs, he⟩
      obtain ⟨hla, hls⟩ := List.forall_mem_cons.1 hl
      obtain ⟨hsa, hss⟩ := List.forall_mem_cons.1 hs
      obtain ⟨hna, hnd⟩ := List.nodup_cons.1 hnd
      have hi : m.insertPort a = .ok ⟨m.entries ++ [a]⟩ := insertPort_eq_ok_iff.2 ⟨hla, hsa, rfl⟩
      rw [hi]
      refine ih.2 ⟨hls, hnd, fun b hb => ?_, by rw [he, List.append_assoc, List.singleton_append]⟩
      rw [specs, List.map_append, List.mem_append, not_or]
      refine ⟨hss b hb, fun hm => hna ?_⟩
      rw [← List.mem_singleton.1 hm]
      exact List.mem_map_of_mem hb

/-- Ports that differ and have at most one filter each make a map, which keeps them as they are. -/
theorem ofPorts_eq_ok_iff {ps : List Attachment} :
    ofPorts ps = .ok m ↔
      (∀ a ∈ ps, a.filters.length ≤ 1) ∧ (ps.map Attachment.spec).Nodup ∧ m.entries = ps := by
  rw [ofPorts, foldlM_insertPort_eq_ok_iff]
  simp [specs]

end ClusterPlan.AttachmentMap
