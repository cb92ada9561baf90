import ClusterPlan.Proofs.Attachment.Entries
import ClusterPlan.Proofs.Filter.Denotation
import ClusterPlan.Proofs.Outcome
import Mathlib.Data.List.Sort

/-!
# The union of merged filters

The lists of filters that are given for one mount are merged into one (`AttachmentMap.mergedFilters`),
which denotes the union of what they denote: `union_of_merges` says so of the entry of the mount, for any
order of the lists and with empty lists among them. Of each list, merging keeps the filters that are read
in front of those that are not, so that nothing becomes read that was not (`mem_upToAll_mergedFilters`).
-/

namespace ClusterPlan

variable {roles : List Role} {text : String}

theorem mem_upToAll_append {texts more : List String} (h : text ∈ upToAll (texts ++ more)) :
    text ∈ upToAll texts ∨ text ∈ upToAll more := by
  rw [upToAll_append] at h
  split at h
  · exact .inl h
  · next hall =>
    have hself : upToAll (texts ++ []) = _ := upToAll_append
    rw [List.append_nil, if_neg hall, upToAll, List.append_nil] at hself
    rw [hself]
    exact List.mem_append.1 h

namespace AttachmentMap

variable {m : AttachmentMap} {spec : String} {filters more : List String} {given : List (List String)}

/-! ## Merging lists of filters -/

/-- The filters of a mount for which lists of filters are given one after the other. -/
def mergedFilters : List (List String) → List String
  | [] => []
  | filters :: given => given.foldl mergeFilters filters

/-- The map after lists of filters are given for a mount one after the other. -/
def mergeAll (m : AttachmentMap) (spec : String) (given : List (List String)) : AttachmentMap :=
  given.foldl (fun m filters => m.merge { spec, filters }) m

/-- What is read of merged filters is read of the one list or the other. -/
theorem mem_upToAll_mergeFilters (h : text ∈ upToAll (mergeFilters filters more)) :
    text ∈ upToAll filters ∨ text ∈ upToAll more := by
  induction more generalizing filters with
  | nil => exact .inl h
  | cons f more ih =>
    rw [mergeFilters, List.foldl_cons, ← mergeFilters] at h
    generalize hstart : (if f ∈ filters then filters else filters ++ [f]) = start at h
    have hf : f ∈ start := by
      subst hstart
      split <;> simp [*]
    have hread (ht : text ∈ upToAll start) : text ∈ upToAll filters ∨ text = f := by
      subst hstart
      split at ht
      · exact .inl ht
      · exact (mem_upToAll_append ht).imp_right fun ht =>
          List.mem_singleton.1 (mem_of_mem_upToAll ht)
    rw [upToAll]
    split
    · next hall =>
      -- Nothing is read after `f`, which stands in front of all that is added later.
      rw [mergeFilters_eq, upToAll_append, if_pos ⟨f, hf, hall⟩] at h
      exact (hread h).imp_right List.mem_singleton.2
    · rcases ih h with ht | ht
      · exact (hread ht).imp_right fun he => List.mem_cons.2 (.inl he)
      · exact .inr (List.mem_cons_of_mem _ ht)

theorem mem_mergedFilters : text ∈ mergedFilters given ↔ ∃ filters ∈ given, text ∈ filters := by
  cases given with
  | nil => simp [mergedFilters]
  | cons first given =>
    rw [mergedFilters, List.exists_mem_cons_iff]
    induction given generalizing first with
    | nil => simp
    | cons filters given ih =>
      rw [List.foldl_cons, ih, mem_mergeFilters, List.exists_mem_cons_iff, or_assoc]

theorem mem_upToAll_mergedFilters (h : text ∈ upToAll (mergedFilters given)) :
    ∃ filters ∈ given, text ∈ upToAll filters := by
  cases given with
  | nil => cases h
  | cons first given =>
    rw [mergedFilters] at h
    rw [List.exists_mem_cons_iff]
    induction given generalizing first with
    | nil => exact .inl h
    | cons filters given ih =>
      rw [List.exists_mem_cons_iff, ← or_assoc]
      exact (ih _ h).imp_left mem_upToAll_mergeFilters

/-! ## The entry of a mount -/

theorem get?_eq_none_iff : m.get? spec = none ↔ m.contains spec = false := by
  rw [contains, Option.isSome_eq_false_iff, Option.isNone_iff_eq_none]

/-- The first filters for a mount make its entry. -/
theorem get?_merge_of_none (h : m.get? spec = none) (filters : List String) :
    (m.merge ⟨spec, filters⟩).get? spec = some ⟨spec, filters⟩ := by
  rw [get?_eq_map_filters?, filters?_merge, Function.update_self, filters?, h]
  rfl

/-- More filters for a mount are merged into its entry. -/
theorem get?_merge_of_some (h : m.get? spec = some ⟨spec, filters⟩) (more : List String) :
    (m.merge ⟨spec, more⟩).get? spec = some ⟨spec, mergeFilters filters more⟩ := by
  rw [get?_eq_map_filters?, filters?_merge, Function.update_self, filters?, h]
  rfl

theorem get?_mergeAll_of_some (h : m.get? spec = some ⟨spec, filters⟩) (given : List (List String)) :
    (m.mergeAll spec given).get? spec = some ⟨spec, given.foldl mergeFilters filters⟩ := by
  induction given generalizing m filters with
  | nil => exact h
  | cons more given ih => exact ih (get?_merge_of_some h more)

/-- The entry of a mount after lists of filters are given for it. -/
theorem get?_mergeAll (h : m.get? spec = none) (hne : given ≠ []) :
    (m.mergeAll spec given).get? spec = some ⟨spec, mergedFilters given⟩ := by
  cases given with
  | nil => exact absurd rfl hne
  | cons filters given => exact get?_mergeAll_of_some (get?_merge_of_none h filters) given

end AttachmentMap

open AttachmentMap (mergedFilters mem_mergedFilters mem_upToAll_mergedFilters)

/-! ## The union -/

/-- Merged filters select what the lists select that are merged. -/
theorem select_mergedFilters {given : List (List String)} (hne : ∃ filters ∈ given, filters ≠ [])
    (h : ∀ filters ∈ given, filters ≠ [] → ∃ chosen, (select roles filters).result = .ok chosen) :
    ∃ chosen, (select roles (mergedFilters given)).result = .ok chosen ∧
      ∀ i, i ∈ chosen ↔ ∃ filters ∈ given, filters ≠ [] ∧ Denoted roles filters i := by
  have hmerged : mergedFilters given ≠ [] := by
    obtain ⟨filters, hmem, hf⟩ := hne
    obtain ⟨text, ht⟩ := List.exists_mem_of_ne_nil filters hf
    exact List.ne_nil_of_mem (mem_mergedFilters.2 ⟨filters, hmem, ht⟩)
  have hdenoted (i : Nat) : Denoted roles (mergedFilters given) i ↔
      ∃ filters ∈ given, filters ≠ [] ∧ Denoted roles filters i := by
    simp only [denoted_iff, Selected, hmerged, false_or, mem_mergedFilters]
    constructor
    · rintro ⟨hi, text, ⟨filters, hmem, ht⟩, hs⟩
      exact ⟨filters, hmem, List.ne_nil_of_mem ht, hi, .inr ⟨text, ht, hs⟩⟩
    · rintro ⟨filters, hmem, hf, hi, hs⟩
      obtain ⟨text, ht, hs⟩ := hs.resolve_left hf
      exact ⟨hi, text, ⟨filters, hmem, ht⟩, hs⟩
  have hfits : ∀ text ∈ upToAll (mergedFilters given), TextFits roles text := by
    intro text ht
    obtain ⟨filters, hmem, ht⟩ := mem_upToAll_mergedFilters ht
    have hf : filters ≠ [] := List.ne_nil_of_mem (mem_of_mem_upToAll ht)
    exact ((exists_select_iff hf).1 (h filters hmem hf)).1 text ht
  have hsome : ∃ i, Denoted roles (mergedFilters given) i := by
    obtain ⟨filters, hmem, hf⟩ := hne
    obtain ⟨i, hi⟩ := ((exists_select_iff hf).1 (h filters hmem hf)).2
    exact ⟨i, (hdenoted i).2 ⟨filters, hmem, hf, hi⟩⟩
  obtain ⟨chosen, hchosen⟩ := (exists_select_iff hmerged).2 ⟨hfits, hsome⟩
  exact ⟨chosen, hchosen, fun i => (mem_select_iff hchosen).trans (hdenoted i)⟩

/-- The answers for lists of filters hold what the lists denote. -/
theorem mem_flatten_iff {lists : List (List String)} {answers : List (List Nat)}
    (h : List.Forall₂ (fun filters chosen => (select roles filters).result = .ok chosen) lists answers)
    {i : Nat} : i ∈ answers.flatten ↔ ∃ filters ∈ lists, Denoted roles filters i := by
  induction h with
  | nil => simp
  | cons hchosen _ ih =>
    rw [List.flatten_cons, List.mem_append, ih, mem_select_iff hchosen, List.exists_mem_cons_iff]

/-- Lists of filters that are merged for a mount in any order, with empty lists among them, select the
union of what the lists select, in the order of the candidates. -/
theorem union_of_merges {candidates : List Node} {spec : String} {m : AttachmentMap}
    {lists given : List (List String)} {answers : List (List Nat)} (hm : m.contains spec = false)
    (hlists : lists ≠ [])
    (hanswers : List.Forall₂ (fun filters chosen =>
      (roleResolver [] { candidates, filters }).result = .ok chosen) lists answers)
    (hgiven : (given.filter (· ≠ [])).Perm lists) :
    ∃ e, (m.mergeAll spec given).get? spec = some e ∧
      (roleResolver [] { candidates, filters := e.filters }).result =
        .ok ((List.range candidates.length).filter (· ∈ answers.flatten)) := by
  replace hanswers : List.Forall₂ (fun filters chosen =>
      (select (candidates.map Node.role) filters).result = .ok chosen) lists answers := hanswers
  have hmem (filters : List String) : filters ∈ lists ↔ filters ∈ given ∧ filters ≠ [] := by
    simp [← hgiven.mem_iff]
  have hsome : ∃ filters ∈ given, filters ≠ [] := by
    obtain ⟨filters, hf⟩ := List.exists_mem_of_ne_nil lists hlists
    exact ⟨filters, (hmem filters).1 hf⟩
  obtain ⟨chosen, hchosen, hunion⟩ := select_mergedFilters hsome fun filters hf hne =>
    Outcome.exists_of_forall₂ hanswers ((hmem filters).2 ⟨hf, hne⟩)
  have hgivenne : given ≠ [] := by
    obtain ⟨filters, hf, -⟩ := hsome
    exact List.ne_nil_of_mem hf
  refine ⟨_, AttachmentMap.get?_mergeAll (AttachmentMap.get?_eq_none_iff.2 hm) hgivenne, ?_⟩
  have hsame (i : Nat) : i ∈ chosen ↔
      i ∈ (List.range candidates.length).filter (· ∈ answers.flatten) := by
    have hflat : i ∈ answers.flatten ↔ i ∈ chosen := by
      rw [mem_flatten_iff hanswers, hunion]
      simp only [hmem, and_assoc]
    have hlt : i ∈ chosen → i < candidates.length := fun hi => by
      simpa using ((mem_select_iff hchosen).1 hi).1
    simp only [List.mem_filter, List.mem_range, hflat, decide_eq_true_eq]
    exact ⟨fun hi => ⟨hlt hi, hi⟩, And.right⟩
  have hsorted : chosen.Pairwise (· < ·) := List.pairwise_lt_range.sublist (select_sublist hchosen)
  rw [← List.Pairwise.eq_of_mem_iff hsorted (List.pairwise_lt_range.filter _) hsame]
  exact hchosen

/-- Three lists for a master and four workers, one of which asks for what another asks for and one for a
role that no node has, merged in another order and with an empty list among them. -/
theorem exists_union_of_merges :
    let candidates := Node.master "k3s" [] false :: List.replicate 4 (Node.worker "k3s" [])
    let given := [["worker[2]", "master"], [], ["worker[:1]", "loadbalancer[:]"], ["worker[2]"]]
    ∃ e, (AttachmentMap.mergeAll {} "/a:/a" given).get? "/a:/a" = some e ∧
      (roleResolver [] { candidates, filters := e.filters }).result = .ok [0, 1, 2, 3] := by
  intro candidates given
  have hanswers : List.Forall₂ (fun filters chosen =>
      (roleResolver [] { candidates, filters }).result = .ok chosen)
      [["worker[2]"], ["worker[2]", "master"], ["worker[:1]", "loadbalancer[:]"]]
      [[3], [0, 3], [1, 2]] :=
    .cons (by decide +kernel) (.cons (by decide +kernel) (.cons (by decide +kernel) .nil))
  exact union_of_merges rfl (by decide) hanswers (by decide +kernel)

/-- A filter that cannot be read stays behind the filter for all nodes that is read before it. -/
example : (select [.master, .worker, .worker]
    (mergedFilters [["worker[0]"], ["worker[0]", "all", "agent"], ["master"]])).result =
      .ok [0, 1, 2] := by
  decide +kernel

end ClusterPlan
