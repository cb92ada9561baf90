import ClusterPlan.Proofs.Attachment.Entries

/-!
# Repeated filters of volumes

The filters of a mount that is given repeatedly are those of the first time as they stand, and after them the
others that are given for it, each once (`AttachmentMap.filters?_ofVolumes`). So a filter is held twice exactly
if it is given twice the first time; otherwise the mount has all its filters in the order in which they first
appear, each once (`AttachmentMap.joinsFilters_ofVolumes`).
-/

namespace ClusterPlan.AttachmentMap

variable {vs : List Attachment} {e : Attachment}

theorem eraseDups_eq_self_iff {α : Type} [DecidableEq α] {l : List α} : l.eraseDups = l ↔ l.Nodup := by
  refine ⟨fun h => h ▸ nodup_eraseDups l, fun h => ?_⟩
  induction l using List.reverseRecOn with
  | nil => rfl
  | append_singleton l x ih =>
    obtain ⟨hl, -, hdisj⟩ := List.nodup_append.1 h
    have hx : x ∉ l := fun hx => hdisj x hx x List.mem_cons_self rfl
    rw [eraseDups_concat, if_neg hx, ih hl]

theorem not_mem_of_mem_removeAll {filters more : List String} {f : String}
    (h : f ∈ (more.removeAll filters).eraseDups) : f ∉ filters := by
  rw [List.mem_eraseDups] at h
  simpa using (List.mem_filter.1 h).2

/-- Merging leaves the filters without repetitions if they were so before. -/
theorem nodup_mergeFilters_iff {filters more : List String} :
    (mergeFilters filters more).Nodup ↔ filters.Nodup := by
  rw [mergeFilters_eq, List.nodup_append]
  refine ⟨And.left, fun h => ⟨h, nodup_eraseDups _, ?_⟩⟩
  rintro f hf g hg rfl
  exact not_mem_of_mem_removeAll hg hf

/-- Repetitions apart, merged filters stand in the order in which they are given. -/
theorem eraseDups_mergeFilters (filters more : List String) :
    (mergeFilters filters more).eraseDups = (filters ++ more).eraseDups := by
  have hkeep : (more.removeAll filters).eraseDups.removeAll filters = (more.removeAll filters).eraseDups :=
    List.filter_eq_self.2 fun f hf => by simpa using not_mem_of_mem_removeAll hf
  rw [mergeFilters_eq, List.eraseDups_append, hkeep, eraseDups_eq_self_iff.2 (nodup_eraseDups _),
    List.eraseDups_append]

/-- The filters of a mount that is given by some volumes, one after the other. -/
def joined : List Attachment → Option (List String)
  | [] => none
  | first :: later => some (mergeFilters first.filters (later.flatMap Attachment.filters))

theorem joined_concat (vs : List Attachment) (v : Attachment) :
    joined (vs ++ [v]) = some ((joined vs).elim v.filters (mergeFilters · v.filters)) := by
  cases vs with
  | nil => rfl
  | cons first later =>
    rw [List.cons_append, joined, List.flatMap_append, List.flatMap_singleton, mergeFilters_append]
    rfl

/-- A mount holds the filters that are given for it. -/
theorem filters?_ofVolumes (vs : List Attachment) (spec : String) :
    (ofVolumes vs).filters? spec = joined (vs.filter (·.spec = spec)) := by
  induction vs using List.reverseRecOn with
  | nil => rfl
  | append_singleton vs v ih =>
    have hmerge : ofVolumes (vs ++ [v]) = (ofVolumes vs).merge v := List.foldl_append
    rw [hmerge, filters?_merge, List.filter_append]
    by_cases hs : v.spec = spec
    · subst hs
      rw [Function.update_self, ih, List.filter_cons_of_pos (by simp), List.filter_nil, joined_concat]
    · rw [Function.update_of_ne (Ne.symm hs), ih, List.filter_cons_of_neg (by simpa using hs), List.filter_nil,
        List.append_nil]

/-- How the filters of an entry come from the volumes that are given for its mount, `first` and then `later`. -/
structure JoinsFilters (e first : Attachment) (later : List Attachment) : Prop where
  /-- Those that are given first are held as they stand, the others once. -/
  eq : e.filters =
    first.filters ++ ((later.flatMap Attachment.filters).removeAll first.filters).eraseDups
  /-- Repetitions apart, the filters stand in the order in which they first appear. -/
  order : e.filters.eraseDups = ((first :: later).flatMap Attachment.filters).eraseDups
  /-- Only what is given twice at first is held twice. -/
  nodup_iff : e.filters.Nodup ↔ first.filters.Nodup
  /-- So this is when each filter is held once, in the order in which they first appear. -/
  eq_iff : e.filters = ((first :: later).flatMap Attachment.filters).eraseDups ↔ first.filters.Nodup

/-- What is given for a mount makes up its entry. -/
theorem joinsFilters_ofVolumes (he : e ∈ (ofVolumes vs).entries) :
    ∃ first later, vs.filter (·.spec = e.spec) = first :: later ∧ JoinsFilters e first later := by
  have hheld := filters?_of_mem (collects_ofVolumes vs).nodup he
  rw [filters?_ofVolumes] at hheld
  cases hvs : vs.filter (·.spec = e.spec) with
  | nil =>
    rw [hvs] at hheld
    cases hheld
  | cons first later =>
    rw [hvs, joined] at hheld
    have heq : mergeFilters first.filters (later.flatMap Attachment.filters) = e.filters :=
      Option.some.inj hheld
    have horder : e.filters.eraseDups = ((first :: later).flatMap Attachment.filters).eraseDups := by
      rw [← heq, eraseDups_mergeFilters, List.flatMap_cons]
    have hnodup : e.filters.Nodup ↔ first.filters.Nodup := by rw [← heq, nodup_mergeFilters_iff]
    refine ⟨first, later, rfl, ?_, horder, hnodup, ?_⟩
    · rw [← heq, mergeFilters_eq]
    · rw [← horder, ← hnodup, eq_comm, eraseDups_eq_self_iff]

/-- Of a mount given twice, what is repeated at first stays, and what is repeated later does not. -/
theorem exists_joinsFilters :
    let first : Attachment := ⟨"/a:/a", ["worker", "worker"]⟩
    let later : Attachment := ⟨"/a:/a", ["master", "worker", "master"]⟩
    let e : Attachment := ⟨"/a:/a", ["worker", "worker", "master"]⟩
    e ∈ (ofVolumes [first, ⟨"/b:/b", []⟩, later]).entries ∧ JoinsFilters e first [later] := by
  intro first later e
  have he : e ∈ (ofVolumes [first, ⟨"/b:/b", []⟩, later]).entries := by decide
  obtain ⟨_, _, hvs, h⟩ := joinsFilters_ofVolumes he
  cases hvs
  exact ⟨he, h⟩

/-- A filter that is given twice the first time is held twice. -/
theorem exists_repeated_filter : ∃ e ∈ (ofVolumes [⟨"/a:/a", ["all", "all"]⟩]).entries, ¬ e.filters.Nodup :=
  ⟨⟨"/a:/a", ["all", "all"]⟩, by decide, by decide⟩

end ClusterPlan.AttachmentMap
