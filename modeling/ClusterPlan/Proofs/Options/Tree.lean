import ClusterPlan.Options.Reader
import ClusterPlan.Proofs.Json.RoundTrip
import ClusterPlan.Proofs.Options.Document

/-!
# Options in JSON

What is written of options in JSON is read as these options, and a JSON record is read as options
exactly if its fields fit them, in whatever order they stand (`Options.read_json`).
-/

namespace ClusterPlan

/-! ## Values in trees -/

/-- Whether a tree can be the value of an option of a kind. Only a list cannot be null. -/
def OptionKind.Fits : OptionKind → Tree → Prop
  | .text, t => t = .null ∨ ∃ s, t = .text s
  | .count, t =>
    t = .null ∨ ∃ n : Int, t = .int n ∧ Int64.minValue.toInt ≤ n ∧ n ≤ Int64.maxValue.toInt
  | .truth, t => t = .null ∨ ∃ b, t = .bool b
  | .texts, t => ∃ items, t = .texts items

namespace Tree

theorem text?_eq_some_iff {t : Tree} {s : String} : t.text? = some s ↔ t = .text s := by
  cases t <;> simp [text?]

theorem texts?_eq_some_iff {t : Tree} {items : List String} :
    t.texts? = some items ↔ t = .texts items := by
  cases t with
  | list values =>
    rw [texts, list.injEq]
    exact Outcome.mapM_eq_some_iff_of_inverse fun _ _ => text?_eq_some_iff
  | _ => exact ⟨nofun, nofun⟩

/-- The values that are read for an option are those that fit it. -/
theorem isSome_value?_iff {kind : OptionKind} {t : Tree} :
    (valueReader.value? kind t).isSome ↔ kind.Fits t := by
  cases kind with
  | text => cases t <;> simp [ValueReader.value?, valueReader, optionalText?, OptionKind.Fits]
  | truth => cases t <;> simp [ValueReader.value?, valueReader, optionalTruth?, OptionKind.Fits]
  | count =>
    cases t <;>
      simp [ValueReader.value?, valueReader, optionalCount?, OptionKind.Fits, Decimal.isSome_toInt64?_iff]
  | texts =>
    rw [ValueReader.value?, Option.isSome_map, Option.isSome_iff_exists]
    exact exists_congr fun items => texts?_eq_some_iff

end Tree

namespace OptionValue

/-- The kind of a value. -/
def kind : OptionValue → OptionKind
  | .text _ => .text
  | .count _ => .count
  | .truth _ => .truth
  | .texts _ => .texts

/-- The tree that sets a value, unless it is that of an option that is not set. -/
def tree? : OptionValue → Option Tree
  | .text value => value.map .text
  | .count value => value.map Options.countTree
  | .truth value => value.map .bool
  | .texts value => if value = [] then none else some (.texts value)

theorem value?_tree {v : OptionValue} {t : Tree} (h : v.tree? = some t) :
    Tree.valueReader.value? v.kind t = some v := by
  cases v with
  | text value | truth value =>
    obtain ⟨_, rfl, rfl⟩ := Option.map_eq_some_iff.1 h
    rfl
  | count value =>
    obtain ⟨n, rfl, rfl⟩ := Option.map_eq_some_iff.1 h
    change ((Decimal.toInt64? n.toInt).map some).map count = _
    rw [Decimal.toInt64?_toInt]
    rfl
  | texts value =>
    obtain ⟨-, h⟩ := Option.ite_none_left_eq_some.1 h
    exact Option.map_eq_some_iff.2 ⟨value, Tree.texts?_eq_some_iff.2 (Option.some.inj h).symm, rfl⟩

theorem eq_unset_of_tree? {v : OptionValue} (h : v.tree? = none) : v = v.kind.unset := by
  cases v with
  | text value | truth value | count value =>
    obtain rfl := Option.map_eq_none_iff.1 h
    rfl
  | texts value =>
    by_cases hv : value = []
    · subst hv
      rfl
    · rw [tree?, if_neg hv] at h
      cases h

theorem isExact_of_tree? {v : OptionValue} {t : Tree} (h : v.tree? = some t) : t.IsExact := by
  cases v with
  | text value | truth value | count value =>
    obtain ⟨_, rfl, rfl⟩ := Option.map_eq_some_iff.1 h
    constructor
  | texts value =>
    obtain ⟨-, h⟩ := Option.ite_none_left_eq_some.1 h
    cases h
    exact Tree.isExact_texts value

end OptionValue

namespace Options

theorem kind_get (o : Options) (k : OptionKey) : (o.get k).kind = k.kind := by
  cases k <;> rfl

/-- The fields that set options, in the order in which documents list them. -/
def fields (o : Options) : List (String × Tree) :=
  OptionKey.all.filterMap fun k => (o.get k).tree?.map (k.word, ·)

theorem toTree_eq (o : Options) : o.toTree = .record o.fields := by
  have hscalar {α : Type} (k : OptionKey) (tree : α → Tree) (value : Option α) :
      ((value.map tree).map (k.word, ·)).toList = scalarField k tree value := by
    cases value <;> rfl
  have hlist (k : OptionKey) (items : List String) :
      ((OptionValue.texts items).tree?.map (k.word, ·)).toList = listField k items := by
    cases items <;> rfl
  rw [toTree, fields, List.filterMap_eq_flatMap_toList]
  simp only [OptionKey.all, List.flatMap_cons, List.flatMap_nil, List.append_nil, get, hlist]
  simp only [OptionValue.tree?, hscalar, List.append_assoc]

theorem mem_fields {o : Options} {name : String} {t : Tree} :
    (name, t) ∈ o.fields ↔ ∃ k : OptionKey, k.word = name ∧ (o.get k).tree? = some t := by
  simp only [fields, List.mem_filterMap, OptionKey.mem_all, true_and, Option.map_eq_some_iff,
    Prod.mk.injEq]
  constructor
  · rintro ⟨k, _, h, rfl, rfl⟩
    exact ⟨k, rfl, h⟩
  · rintro ⟨k, rfl, h⟩
    exact ⟨k, t, h, rfl, rfl⟩

theorem sets_fields (o : Options) : Sets Tree.valueReader o.fields o where
  names := by
    rintro ⟨name, t⟩ h
    obtain ⟨k, rfl, -⟩ := mem_fields.1 h
    exact ⟨k, rfl⟩
  nodup := by
    rw [fields, List.map_filterMap]
    refine List.Nodup.filterMap (fun k k' name hk hk' => ?_) (by decide)
    simp only [Option.map_map, Option.mem_def, Option.map_eq_some_iff] at hk hk'
    obtain ⟨_, -, rfl⟩ := hk
    obtain ⟨_, -, h⟩ := hk'
    exact OptionKey.word_injective h.symm
  values k t h := by
    obtain ⟨k', hk', ht⟩ := mem_fields.1 h
    obtain rfl := OptionKey.word_injective hk'
    rw [← kind_get o k']
    exact OptionValue.value?_tree ht
  unset k h := by
    rw [← kind_get o k]
    refine OptionValue.eq_unset_of_tree? (Option.eq_none_iff_forall_not_mem.2 fun t ht => h ?_)
    exact List.mem_map.2 ⟨(k.word, t), mem_fields.2 ⟨k, rfl, ht⟩, rfl⟩

theorem isExact_toTree (o : Options) : o.toTree.IsExact := by
  rw [toTree_eq]
  refine .record ?_
  rintro ⟨name, t⟩ h
  obtain ⟨k, -, ht⟩ := mem_fields.1 h
  exact OptionValue.isExact_of_tree? ht

theorem read?_record {text : String} {fields : List (String × Tree)}
    (h : Json.read? text = some (.record fields)) :
    read? .json text = ofNamedFields? Tree.valueReader fields := by
  rw [read?, h, Option.bind_some, ofTree?]

/-- Options are read back from the JSON that is written of them. A JSON record is read as options exactly if
each field has the name of an option, no name occurs twice, and the values fit their options; the order of
the fields makes no difference. A count is the literal of an integer, neither a fraction nor an exponent nor
`-0`. -/
theorem read_json :
    (∀ o : Options, read? .json (Json.write o.toTree) = some o) ∧
    (∀ text fields, Json.read? text = some (.record fields) →
      ((∃ o, read? .json text = some o) ↔
        (∀ field ∈ fields, ∃ k : OptionKey, field.1 = k.word) ∧ (fields.map Prod.fst).Nodup ∧
          ∀ k t, (OptionKey.word k, t) ∈ fields → k.kind.Fits t) ∧
      ∀ text' fields', Json.read? text' = some (.record fields') → fields.Perm fields' →
        read? .json text = read? .json text') ∧
    (∀ word n, Json.wordValue? word = some (.int n) ↔ word = Decimal.integer n) := by
  refine ⟨fun o => ?_, fun text fields h => ⟨?_, fun text' fields' h' hperm => ?_⟩, fun word n =>
    Json.wordValue?_eq_int_iff⟩
  · have hread := Json.read?_write (isExact_toTree o)
    rw [toTree_eq] at hread ⊢
    rw [read?_record hread, ofNamedFields?_eq_some_iff]
    exact sets_fields o
  · simp only [read?_record h, exists_ofNamedFields?_iff, Tree.isSome_value?_iff]
  · rw [read?_record h, read?_record h', ofNamedFields?_perm hperm]

/-- The same fields in two orders, one of them null and one of them the least count. -/
theorem exists_read_json : ∃ (text text' : String) (fields : List (String × Tree)) (o : Options),
    Json.read? text = some (.record fields) ∧ Json.read? text' = some (.record fields.reverse) ∧
    fields.map Prod.fst = ["ports", "masters", "wait"] ∧
    read? .json text = some o ∧ read? .json text' = some o := by
  let fields : List (String × Tree) :=
    [("ports", .texts ["", "80"]), ("masters", .int Int64.minValue.toInt), ("wait", .null)]
  have hvalue : (OptionValue.texts ["", "80"]).tree? = some (.texts ["", "80"]) := rfl
  have hexact : ∀ field ∈ fields, field.2.IsExact := by
    simp only [fields, List.forall_mem_cons]
    exact ⟨OptionValue.isExact_of_tree? hvalue, .int _, .null, nofun⟩
  have hread := Json.read?_write (.record hexact)
  have hread' := Json.read?_write (.record fun field hf => hexact field (List.mem_reverse.1 hf))
  have hnames : ∀ field ∈ fields, ∃ k : OptionKey, field.1 = k.word := by
    simp only [fields, List.forall_mem_cons]
    exact ⟨⟨.ports, rfl⟩, ⟨.masters, rfl⟩, ⟨.wait, rfl⟩, nofun⟩
  have hfits : ∀ k t, (OptionKey.word k, t) ∈ fields → k.kind.Fits t := by
    intro k t ht
    cases k <;> simp [fields, OptionKey.word] at ht
    case ports => exact ⟨["", "80"], ht⟩
    case masters => exact .inr ⟨Int64.minValue.toInt, ht, by decide⟩
    case wait => exact .inl ht
  obtain ⟨-, hrecord, -⟩ := read_json
  obtain ⟨haccepted, horder⟩ := hrecord _ _ hread
  obtain ⟨o, ho⟩ := haccepted.2 ⟨hnames, by decide, hfits⟩
  exact ⟨_, _, fields, o, hread, hread', rfl, ho,
    (horder _ _ hread' fields.reverse_perm.symm).symm.trans ho⟩

end Options
end ClusterPlan
