import ClusterPlan.Proofs.Attachment
import Mathlib.Data.List.Nodup
import Mathlib.Logic.Function.Basic

/-!
# The entries of attachment maps

What a map holds for a specification (`AttachmentMap.filters?`). An entry that is added, and one that takes up
filters, change what is held for their own specification and for no other (`AttachmentMap.filters?_append`,
`AttachmentMap.filters?_merge`). Of the filters that are merged into an entry, those are added that it does not
have, each once, in their order (`AttachmentMap.mergeFilters_eq`).
-/

namespace ClusterPlan.AttachmentMap

variable {m : AttachmentMap} {a e : Attachment} {spec : String} {filters more : List String}

/-! ## Lists without repetitions -/

section

variable {α : Type} [DecidableEq α]

theorem eraseDups_concat (l : List α) (x : α) :
    (l ++ [x]).eraseDups = if x ∈ l then l.eraseDups else l.eraseDups ++ [x] := by
  rw [List.eraseDups_append]
  split <;> simp [List.removeAll, List.eraseDups_cons, *]

theorem nodup_eraseDups (l : List α) : l.eraseDups.Nodup := by
  induction l using List.reverseRecOn with
  | nil => exact List.nodup_nil
  | append_singleton l x ih =>
    rw [eraseDups_concat]
    split
    · exact ih
    · next hx => exact List.concat_eq_append ▸ ih.concat (mt List.mem_eraseDups.1 hx)

end

/-! ## Filters -/

/-- Merging adds the filters that are not there yet, each of them once, in the order in which they are given. -/
theorem mergeFilters_eq (filters more : List String) :
    mergeFilters filters more = filters ++ (more.removeAll filters).eraseDups := by
  induction more generalizing filters with
  | nil => simp [mergeFilters, List.removeAll]
  | cons f more ih =>
    rw [mergeFilters, List.foldl_cons, ← mergeFilters, ih]
    split
    · next hf => simp [List.removeAll, hf]
    · next hf =>
      have hrest : more.removeAll (filters ++ [f]) = (more.removeAll filters).filter fun g => !g == f := by
        simp only [List.removeAll, List.filter_filter, List.elem_eq_contains, List.contains_append,
          List.contains_cons, List.contains_nil, Bool.or_false, Bool.not_or, Bool.and_comm]
      have hcons : (f :: more).removeAll filters = f :: more.removeAll filters := by
        simp [List.removeAll, hf]
      rw [hrest, hcons, List.eraseDups_cons, List.append_assoc, List.singleton_append]

/-- Filters that are merged one list after the other are merged together. -/
theorem mergeFilters_append (filters more further : List String) :
    mergeFilters filters (more ++ further) = mergeFilters (mergeFilters filters more) further :=
  List.foldl_append

/-! ## What is held -/

/-- The filters that a map holds for a specification. -/
def filters? (m : AttachmentMap) (spec : String) : Option (List String) :=
  (m.get? spec).map Attachment.filters

theorem mem_of_get? (h : m.get? spec = some e) : e ∈ m.entries ∧ e.spec = spec :=
  ⟨List.mem_of_find?_eq_some h, by simpa using List.find?_some h⟩

theorem get?_eq_map_filters? (m : AttachmentMap) (spec : String) :
    m.get? spec = (m.filters? spec).map (Attachment.mk spec) := by
  cases h : m.get? spec with
  | none => rw [filters?, h, Option.map_none, Option.map_none]
  | some e =>
    obtain ⟨-, rfl⟩ := mem_of_get? h
    rw [filters?, h, Option.map_some, Option.map_some]

theorem isSome_filters?_iff : (m.filters? spec).isSome ↔ spec ∈ m.specs := by
  rw [filters?, Option.isSome_map, ← contains_iff, contains]

theorem filters?_eq_none_iff : m.filters? spec = none ↔ spec ∉ m.specs := by
  rw [← isSome_filters?_iff, Option.not_isSome_iff_eq_none]

/-- An entry holds the filters of its specification, if this has no other entry. -/
theorem filters?_of_mem (h : m.specs.Nodup) (he : e ∈ m.entries) : m.filters? e.spec = some e.filters := by
  obtain ⟨d, hd⟩ := Option.isSome_iff_exists.1 (contains_iff.2 (List.mem_map_of_mem (f := Attachment.spec) he))
  obtain ⟨hmem, hspec⟩ := mem_of_get? hd
  rw [filters?, hd, List.inj_on_of_nodup_map h hmem he hspec, Option.map_some]

/-- A new entry. -/
theorem filters?_append (h : a.spec ∉ m.specs) : filters? ⟨m.entries ++ [a]⟩ =
    Function.update m.filters? a.spec (some a.filters) := by
  funext spec
  rw [filters?, get?, List.find?_append, ← get?]
  by_cases hs : spec = a.spec
  · subst hs
    have hnone : m.get? a.spec = none := Option.map_eq_none_iff.1 (filters?_eq_none_iff.2 h)
    simp [hnone]
  · simp [Function.update_of_ne hs, filters?, Ne.symm hs]

/-- A new entry, or one that takes up filters. -/
theorem filters?_merge (m : AttachmentMap) (a : Attachment) : (m.merge a).filters? =
    Function.update m.filters? a.spec
      (some ((m.filters? a.spec).elim a.filters (mergeFilters · a.filters))) := by
  rw [merge]
  split
  · next hc =>
    funext spec
    have hsame : (fun e : Attachment => decide (e.spec = spec)) ∘ (fun e => if e.spec = a.spec then
        { e with filters := mergeFilters e.filters a.filters } else e) = fun e => decide (e.spec = spec) := by
      funext e
      rw [Function.comp_apply]
      split <;> rfl
    rw [filters?, get?, List.find?_map, hsame, ← get?]
    by_cases hs : spec = a.spec
    · subst hs
      obtain ⟨e, he⟩ := Option.isSome_iff_exists.1 hc
      rw [Function.update_self, filters?, he, Option.map_some, Option.map_some, if_pos (mem_of_get? he).2]
      rfl
    · rw [Function.update_of_ne hs, filters?]
      cases he : m.get? spec with
      | none => rfl
      | some e =>
        obtain ⟨-, rfl⟩ := mem_of_get? he
        rw [Option.map_some, if_neg hs]
  · next hc =>
    have hnew : a.spec ∉ m.specs := mt contains_iff.2 hc
    rw [filters?_append hnew, filters?_eq_none_iff.2 hnew, Option.elim_none]

end ClusterPlan.AttachmentMap
