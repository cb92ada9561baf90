import ClusterPlan.Proofs.Options.Value
import ClusterPlan.Proofs.Outcome
import Mathlib.Data.List.Nodup
import Mathlib.Data.List.Perm.Basic

/-!
# Documents that set options

Named fields set options (`Options.Sets`) if each has the name of an option, no name occurs twice, and each
option has the value that its field gives, or is unset without a field. That is what documents are read as
(`Options.ofNamedFields?_eq_some_iff`), so the order of the fields makes no difference.
-/

namespace ClusterPlan

theorem OptionKey.word_injective : Function.Injective OptionKey.word := by
  intro k k' h
  have hword := ofWord?_word k
  rw [h, ofWord?_word] at hword
  exact (Option.some.inj hword).symm

namespace Options

variable {δ : Type} {r : ValueReader δ} {o o' : Options}

/-- The fields of a document set options. -/
structure Sets (r : ValueReader δ) (fields : List (String × δ)) (o : Options) : Prop where
  names : ∀ field ∈ fields, ∃ k : OptionKey, field.1 = k.word
  nodup : (fields.map Prod.fst).Nodup
  values : ∀ k x, (OptionKey.word k, x) ∈ fields → r.value? k.kind x = some (o.get k)
  unset : ∀ k, OptionKey.word k ∉ fields.map Prod.fst → o.get k = k.kind.unset

/-! ## Fields of options -/

theorem isSome_set? (o : Options) (k : OptionKey) (x : δ) :
    (o.set? r k x).isSome = (r.value? k.kind x).isSome := by
  cases k <;> exact Option.isSome_map.trans Option.isSome_map.symm

theorem exists_setAll? {fields : List (OptionKey × δ)} (o : Options)
    (h : ∀ field ∈ fields, (r.value? field.1.kind field.2).isSome) :
    ∃ o', setAll? r o fields = some o' := by
  induction fields generalizing o with
  | nil => exact ⟨o, rfl⟩
  | cons field fields ih =>
    obtain ⟨hfield, hfields⟩ := List.forall_mem_cons.1 h
    rw [← isSome_set? o] at hfield
    obtain ⟨o₁, ho₁⟩ := Option.isSome_iff_exists.1 hfield
    obtain ⟨o', ho'⟩ := ih o₁ hfields
    exact ⟨o', Option.bind_eq_some_iff.2 ⟨o₁, ho₁, ho'⟩⟩

/-- Fields of different options set each of them to the value that is read, and leave the others as they
are. -/
theorem setAll?_eq_some_iff {fields : List (OptionKey × δ)} (hnodup : (fields.map Prod.fst).Nodup) :
    setAll? r o fields = some o' ↔
      (∀ field ∈ fields, r.value? field.1.kind field.2 = some (o'.get field.1)) ∧
        ∀ k, k ∉ fields.map Prod.fst → o'.get k = o.get k := by
  induction fields generalizing o with
  | nil =>
    refine ⟨fun h => ?_, fun ⟨_, h⟩ => ?_⟩
    · cases h
      exact ⟨nofun, fun _ _ => rfl⟩
    · exact congrArg some (ext_get fun k => (h k List.not_mem_nil).symm)
  | cons field fields ih =>
    obtain ⟨k, x⟩ := field
    obtain ⟨hk, hnodup⟩ := List.nodup_cons.1 hnodup
    rw [setAll?, Option.bind_eq_some_iff, List.forall_mem_cons]
    simp only [ih hnodup, List.map_cons, List.mem_cons, not_or]
    constructor
    · rintro ⟨o₁, ho₁, hfields, hother⟩
      obtain ⟨hx, hsame⟩ := set?_eq_some_iff.1 ho₁
      refine ⟨⟨?_, hfields⟩, fun k' hk' => (hother k' hk'.2).trans (hsame k' hk'.1)⟩
      rw [hx, hother k hk]
    · rintro ⟨⟨hx, hfields⟩, hother⟩
      have hsome : (o.set? r k x).isSome := by rw [isSome_set?, hx]; rfl
      obtain ⟨o₁, ho₁⟩ := Option.isSome_iff_exists.1 hsome
      obtain ⟨hx₁, hsame⟩ := set?_eq_some_iff.1 ho₁
      refine ⟨o₁, ho₁, hfields, fun k' hk' => ?_⟩
      by_cases h : k' = k
      · subst h
        exact Option.some.inj (hx.symm.trans hx₁)
      · rw [hsame k' h, hother k' ⟨h, hk'⟩]

/-! ## Named fields -/

/-- The fields with the names of their options. -/
def named (fields : List (OptionKey × δ)) : List (String × δ) :=
  fields.map fun field => (field.1.word, field.2)

theorem map_fst_named (fields : List (OptionKey × δ)) :
    (named fields).map Prod.fst = (fields.map Prod.fst).map OptionKey.word := by
  simp only [named, List.map_map, Function.comp_def]

theorem mem_named {fields : List (OptionKey × δ)} {k : OptionKey} {x : δ} :
    (k.word, x) ∈ named fields ↔ (k, x) ∈ fields := by
  simp only [named, List.mem_map, Prod.mk.injEq, OptionKey.word_injective.eq_iff]
  constructor
  · rintro ⟨field, h, rfl, rfl⟩
    exact h
  · exact fun h => ⟨(k, x), h, rfl, rfl⟩

theorem exists_named {fields : List (String × δ)}
    (h : ∀ field ∈ fields, ∃ k : OptionKey, field.1 = k.word) : ∃ keyed, fields = named keyed := by
  induction fields with
  | nil => exact ⟨[], rfl⟩
  | cons field fields ih =>
    obtain ⟨⟨k, hk⟩, hfields⟩ := List.forall_mem_cons.1 h
    obtain ⟨keyed, rfl⟩ := ih hfields
    exact ⟨(k, field.2) :: keyed, congrArg (· :: named keyed) (Prod.ext hk rfl)⟩

/-- Fields are told apart exactly if they have names of options. -/
theorem mapM_ofWord?_eq_some_iff {fields : List (String × δ)} {keyed : List (OptionKey × δ)} :
    (fields.mapM fun (field : String × δ) => (OptionKey.ofWord? field.1).map (·, field.2)) = some keyed ↔
      fields = named keyed := by
  refine Outcome.mapM_eq_some_iff_of_inverse fun field keyed => ?_
  rw [Option.map_eq_some_iff]
  constructor
  · rintro ⟨k, hk, rfl⟩
    exact Prod.ext (OptionKey.eq_word_of_ofWord? hk) rfl
  · rintro rfl
    exact ⟨keyed.1, OptionKey.ofWord?_word keyed.1, rfl⟩

theorem nodup_named_iff {keyed : List (OptionKey × δ)} :
    ((named keyed).map Prod.fst).Nodup ↔ (keyed.map Prod.fst).Nodup := by
  rw [map_fst_named, List.nodup_map_iff OptionKey.word_injective]

theorem sets_named_iff {keyed : List (OptionKey × δ)} : Sets r (named keyed) o ↔
    (keyed.map Prod.fst).Nodup ∧ setAll? r {} keyed = some o := by
  have hmem (k : OptionKey) : k.word ∈ (named keyed).map Prod.fst ↔ k ∈ keyed.map Prod.fst := by
    rw [map_fst_named, List.mem_map_of_injective OptionKey.word_injective]
  constructor
  · intro h
    have hk := nodup_named_iff.1 h.nodup
    have hvalues : ∀ field ∈ keyed, r.value? field.1.kind field.2 = some (o.get field.1) :=
      fun field hf => h.values _ _ (mem_named.2 hf)
    refine ⟨hk, (setAll?_eq_some_iff hk).2 ⟨hvalues, fun k hn => ?_⟩⟩
    rw [h.unset k (mt (hmem k).1 hn), get_empty]
  · rintro ⟨hk, hset⟩
    obtain ⟨hvalues, hunset⟩ := (setAll?_eq_some_iff hk).1 hset
    refine ⟨fun field hf => ?_, nodup_named_iff.2 hk, fun k x hx => ?_, fun k hn => ?_⟩
    · obtain ⟨keyed, -, rfl⟩ := List.mem_map.1 hf
      exact ⟨_, rfl⟩
    · exact hvalues _ (mem_named.1 hx)
    · rw [hunset k (mt (hmem k).2 hn), get_empty]

/-- Documents are read as the options that their fields set. -/
theorem ofNamedFields?_eq_some_iff {fields : List (String × δ)} :
    ofNamedFields? r fields = some o ↔ Sets r fields o := by
  simp only [ofNamedFields?, Option.bind_eq_some_iff, mapM_ofWord?_eq_some_iff]
  constructor
  · rintro ⟨keyed, rfl, h⟩
    rw [ofFields?] at h
    split at h
    · next hk => exact sets_named_iff.2 ⟨hk, h⟩
    · cases h
  · intro h
    obtain ⟨keyed, rfl⟩ := exists_named h.names
    obtain ⟨hk, hset⟩ := sets_named_iff.1 h
    exact ⟨keyed, rfl, by rw [ofFields?, if_pos hk, hset]⟩

/-- A document is read as options exactly if each field has the name of an option, no name occurs twice, and
each value can be read as one of its option. -/
theorem exists_ofNamedFields?_iff {fields : List (String × δ)} :
    (∃ o, ofNamedFields? r fields = some o) ↔
      (∀ field ∈ fields, ∃ k : OptionKey, field.1 = k.word) ∧ (fields.map Prod.fst).Nodup ∧
        ∀ k x, (OptionKey.word k, x) ∈ fields → (r.value? k.kind x).isSome := by
  simp only [ofNamedFields?_eq_some_iff]
  constructor
  · rintro ⟨o, h⟩
    exact ⟨h.names, h.nodup, fun k x hx => by rw [h.values k x hx]; rfl⟩
  · rintro ⟨hnames, hnodup, hvalues⟩
    obtain ⟨keyed, rfl⟩ := exists_named hnames
    obtain ⟨o, ho⟩ := exists_setAll? {} fun field hf => hvalues _ _ (mem_named.2 hf)
    exact ⟨o, sets_named_iff.2 ⟨nodup_named_iff.1 hnodup, ho⟩⟩

theorem Sets.perm {fields fields' : List (String × δ)} (h : Sets r fields o)
    (hp : fields.Perm fields') : Sets r fields' o where
  names field hf := h.names field (hp.mem_iff.2 hf)
  nodup := (hp.map Prod.fst).nodup_iff.1 h.nodup
  values k x hx := h.values k x (hp.mem_iff.2 hx)
  unset k hk := h.unset k (mt (hp.map Prod.fst).mem_iff.1 hk)

/-- The order of the fields makes no difference. -/
theorem ofNamedFields?_perm {fields fields' : List (String × δ)} (h : fields.Perm fields') :
    ofNamedFields? r fields = ofNamedFields? r fields' := by
  ext o
  rw [ofNamedFields?_eq_some_iff, ofNamedFields?_eq_some_iff]
  exact ⟨(·.perm h), (·.perm h.symm)⟩

end Options
end ClusterPlan
