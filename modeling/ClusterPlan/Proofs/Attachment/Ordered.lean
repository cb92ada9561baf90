import ClusterPlan.Attachment.Call
import ClusterPlan.Proofs.Attachment.Entries

/-!
# Attachment maps as ordered maps

An `OrderedMap` says what a map of attachments is without its entries: a function from specifications to
filters, and the order in which the specifications were added. Every call answers what it answers there and has
the effect that it has there (`AttachmentMap.call_ordered`), so all runs of calls do (`AttachmentMap.callAll_eq`).
A call adds at most one specification, at the end (`AttachmentMap.specs_call`). Hence the order of the
specifications can be read off the calls, and no later call changes it (`AttachmentMap.isOrdered_callAll`).
-/

namespace ClusterPlan

/-- Filters for specifications, with the order in which the specifications were added. -/
structure OrderedMap where
  order : List String
  filters? : String → Option (List String)

namespace OrderedMap

/-- The map of no specification. -/
def empty : OrderedMap := ⟨[], fun _ => none⟩

/-- The map with a specification after the others. -/
def append (o : OrderedMap) (a : Attachment) : OrderedMap where
  order := o.order ++ [a.spec]
  filters? := Function.update o.filters? a.spec (some a.filters)

/-- The map with other filters for one of its specifications. -/
def set (o : OrderedMap) (spec : String) (filters : List String) : OrderedMap where
  order := o.order
  filters? := Function.update o.filters? spec (some filters)

/-- The answer to a call, and the map after it. -/
def call (o : OrderedMap) : AttachmentCall → AttachmentAnswer × OrderedMap
  | .merge a =>
    match o.filters? a.spec with
    | none => (.done, o.append a)
    | some filters => (.done, o.set a.spec (filters ++ (a.filters.removeAll filters).eraseDups))
  | .insertUnique a =>
    if a.spec ∈ o.order then (.refused (.duplicatePort a.spec), o) else (.done, o.append a)
  | .get spec => (.entry ((o.filters? spec).map (Attachment.mk spec)), o)
  | .contains spec => (.presence (spec ∈ o.order), o)

/-- Makes calls one after the other, with the answer to each and the map after it. -/
def callAll (o : OrderedMap) : List AttachmentCall → List (AttachmentAnswer × OrderedMap)
  | [] => []
  | c :: calls => o.call c :: callAll (o.call c).2 calls

/-- The map as a list of entries. -/
def toMap (o : OrderedMap) : AttachmentMap where
  entries := o.order.filterMap fun spec => (o.filters? spec).map (Attachment.mk spec)

end OrderedMap

/-- The specification that a call adds if it is not there. -/
def AttachmentCall.added? : AttachmentCall → Option String
  | .merge a | .insertUnique a => some a.spec
  | .get _ | .contains _ => none

namespace AttachmentMap

variable {m m' : AttachmentMap} {calls : List AttachmentCall} {a : Attachment}

/-- What a map holds, and in which order. -/
def ordered (m : AttachmentMap) : OrderedMap := ⟨m.specs, m.filters?⟩

theorem ordered_empty : ordered {} = .empty := rfl

/-- A map whose specifications differ is known from what it holds in which order. -/
theorem toMap_ordered (h : m.specs.Nodup) : m.ordered.toMap = m := by
  have hself : ∀ e ∈ m.entries, (m.filters? e.spec).map (Attachment.mk e.spec) = some e := fun e he => by
    rw [filters?_of_mem h he, Option.map_some]
  cases m with
  | mk entries =>
    rw [OrderedMap.toMap, ordered, specs, List.filterMap_map]
    congr 1
    exact (List.filterMap_congr hself).trans List.filterMap_some

/-- An entry that is added is one after the others. -/
theorem ordered_append (h : a.spec ∉ m.specs) : ordered ⟨m.entries ++ [a]⟩ = m.ordered.append a := by
  rw [ordered, filters?_append h, specs, List.map_append]
  rfl

/-- What is merged for a new specification is added. -/
theorem ordered_merge_of_none (h : m.filters? a.spec = none) : (m.merge a).ordered = m.ordered.append a := by
  rw [ordered, filters?_merge, specs_merge, if_neg (filters?_eq_none_iff.1 h), h]
  rfl

/-- What is merged for a specification that has an entry changes its filters. -/
theorem ordered_merge_of_some {filters : List String} (h : m.filters? a.spec = some filters) :
    (m.merge a).ordered = m.ordered.set a.spec (filters ++ (a.filters.removeAll filters).eraseDups) := by
  have hmem : a.spec ∈ m.specs := isSome_filters?_iff.1 (by rw [h]; rfl)
  rw [ordered, filters?_merge, specs_merge, if_pos hmem, h, Option.elim_some, mergeFilters_eq]
  rfl

theorem insertUnique_of_mem (h : a.spec ∈ m.specs) : m.insertUnique a = .error (.duplicatePort a.spec) :=
  if_pos (contains_iff.2 h)

theorem insertUnique_of_not_mem (h : a.spec ∉ m.specs) : m.insertUnique a = .ok ⟨m.entries ++ [a]⟩ :=
  if_neg (mt contains_iff.1 h)

/-- A call does to a map what it does to an ordered map. -/
theorem call_ordered (m : AttachmentMap) (c : AttachmentCall) :
    m.ordered.call c = ((m.call c).1, (m.call c).2.ordered) := by
  cases c with
  | merge a =>
    cases h : m.ordered.filters? a.spec with
    | none => simp only [OrderedMap.call, h, call, ordered_merge_of_none h]
    | some filters => simp only [OrderedMap.call, h, call, ordered_merge_of_some h]
  | insertUnique a =>
    rw [OrderedMap.call, call]
    by_cases h : a.spec ∈ m.specs
    · rw [insertUnique_of_mem h]
      exact if_pos h
    · rw [insertUnique_of_not_mem h, ordered_append h]
      exact if_neg h
  | get spec => rw [OrderedMap.call, call, get?_eq_map_filters?, ordered]
  | contains spec =>
    have h : m.contains spec = decide (spec ∈ m.specs) := by
      rw [Bool.eq_iff_iff, contains_iff, decide_eq_true_iff]
    rw [OrderedMap.call, call, h, ordered]

/-! ## Runs -/

/-- The map after calls. -/
def after (m : AttachmentMap) (calls : List AttachmentCall) : AttachmentMap :=
  calls.foldl (fun m c => (m.call c).2) m

theorem after_append (m : AttachmentMap) (calls more : List AttachmentCall) :
    m.after (calls ++ more) = (m.after calls).after more :=
  List.foldl_append

/-- Each call of a run is made on the map that the calls before it leave. -/
theorem getElem?_callAll (m : AttachmentMap) (calls : List AttachmentCall) (n : Nat) :
    (m.callAll calls)[n]? = calls[n]?.map (m.after (calls.take n)).call := by
  induction calls generalizing m n with
  | nil => rfl
  | cons c calls ih =>
    cases n with
    | zero => rfl
    | succ n =>
      rw [callAll, List.getElem?_cons_succ, List.getElem?_cons_succ, ih]
      rfl

/-- The map that a run shows after one of its calls. -/
theorem eq_after_of_getElem? {n : Nat} {answer : AttachmentAnswer}
    (h : (m.callAll calls)[n]? = some (answer, m')) : m' = m.after (calls.take (n + 1)) := by
  rw [getElem?_callAll] at h
  obtain ⟨c, hc, hcall⟩ := Option.map_eq_some_iff.1 h
  rw [List.take_add_one, hc, after_append]
  exact (congrArg Prod.snd hcall).symm

/-- A call adds at most one specification, after the others. -/
theorem specs_call (m : AttachmentMap) (c : AttachmentCall) : (m.call c).2.specs =
    c.added?.elim m.specs fun spec => if spec ∈ m.specs then m.specs else m.specs ++ [spec] := by
  cases c with
  | merge a => exact specs_merge m a
  | insertUnique a =>
    show _ = if a.spec ∈ m.specs then m.specs else m.specs ++ [a.spec]
    rw [call]
    by_cases h : a.spec ∈ m.specs
    · rw [insertUnique_of_mem h, if_pos h]
    · rw [insertUnique_of_not_mem h, if_neg h]
      exact List.map_append
  | get | contains => rfl

theorem nodup_call (h : m.specs.Nodup) (c : AttachmentCall) : (m.call c).2.specs.Nodup := by
  rw [specs_call]
  cases c.added? with
  | none => exact h
  | some spec =>
    show (if spec ∈ m.specs then m.specs else m.specs ++ [spec]).Nodup
    split
    · exact h
    · next hs => exact List.concat_eq_append ▸ h.concat hs

/-- The specifications of a map stand in the order in which calls first asked to add them. -/
theorem specs_after (calls : List AttachmentCall) :
    (after {} calls).specs = (calls.filterMap AttachmentCall.added?).eraseDups := by
  induction calls using List.reverseRecOn with
  | nil => rfl
  | append_singleton calls c ih =>
    have hcall : (after {} (calls ++ [c])).specs = ((after {} calls).call c).2.specs := by
      rw [after_append]
      rfl
    rw [hcall, specs_call, ih, List.filterMap_append]
    cases h : c.added? with
    | none => simp [h]
    | some spec => simp [h, eraseDups_concat]

/-- The answers of a run, and the map after each call, are those of an ordered map. -/
theorem callAll_eq (h : m.specs.Nodup) (calls : List AttachmentCall) :
    m.callAll calls = (m.ordered.callAll calls).map (Prod.map id OrderedMap.toMap) := by
  induction calls generalizing m with
  | nil => rfl
  | cons c calls ih =>
    have hafter := nodup_call h c
    rw [callAll, OrderedMap.callAll, call_ordered, List.map_cons, ← ih hafter, Prod.map_apply,
      toMap_ordered hafter, id]

/-- What holds of every run of calls on a map that is empty at first. -/
structure IsOrdered (calls : List AttachmentCall) : Prop where
  /-- The answer to each call, and the map after it, are those of an ordered map. -/
  trace : callAll {} calls =
    (OrderedMap.callAll .empty calls).map (Prod.map id OrderedMap.toMap)
  /-- The specifications of the map differ after each call. -/
  nodup {n : Nat} {answer : AttachmentAnswer} {m : AttachmentMap}
    (h : (callAll {} calls)[n]? = some (answer, m)) : m.specs.Nodup
  /-- They stand in the order in which the calls up to then have first added them. -/
  order {n : Nat} {answer : AttachmentAnswer} {m : AttachmentMap}
    (h : (callAll {} calls)[n]? = some (answer, m)) :
    m.specs = ((calls.take (n + 1)).filterMap AttachmentCall.added?).eraseDups
  /-- Later calls leave them where they are. -/
  kept {i j : Nat} (hij : i ≤ j) {answer answer' : AttachmentAnswer} {m m' : AttachmentMap}
    (hi : (callAll {} calls)[i]? = some (answer, m))
    (hj : (callAll {} calls)[j]? = some (answer', m')) : m.specs <+: m'.specs

/-- Every run of calls is one on an ordered map. -/
theorem isOrdered_callAll (calls : List AttachmentCall) : IsOrdered calls where
  trace := by rw [callAll_eq (m := {}) List.nodup_nil, ordered_empty]
  nodup h := by
    rw [eq_after_of_getElem? h, specs_after]
    exact nodup_eraseDups _
  order h := by rw [eq_after_of_getElem? h, specs_after]
  kept hij _ _ _ _ hi hj := by
    obtain ⟨more, hmore⟩ := List.take_prefix_take_left (l := calls) (Nat.succ_le_succ hij)
    rw [eq_after_of_getElem? hi, eq_after_of_getElem? hj, specs_after, specs_after, ← hmore,
      List.filterMap_append, List.eraseDups_append]
    exact List.prefix_append _ _

end AttachmentMap
end ClusterPlan
