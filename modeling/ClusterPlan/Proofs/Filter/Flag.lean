import ClusterPlan.Filter.Flag

/-!
# Flags and their texts

A flag can be written if its object holds no `@` and its filters are terms (`Flag.IsWritable`). Writing it
and splitting the text gives the flag back (`Flag.split_text`), and a text that is split is the text of
what it is split into (`Flag.text_of_split`), which is a flag that can be written
(`Flag.isWritable_of_split`). `Flag.splitsExactly_split` puts this together, and says of all other texts
what is told of them.
-/

namespace ClusterPlan.Flag

/-- A text that can stand among the filters of a flag. -/
structure IsTerm (text : String) : Prop where
  ne_empty : text ≠ ""
  not_mem_at : '@' ∉ text.toList
  not_mem_semicolon : ';' ∉ text.toList

/-- A flag whose parts can be told from each other in its text. -/
structure IsWritable (f : Flag) : Prop where
  not_mem_at : '@' ∉ f.object.toList
  isTerm : ∀ term ∈ f.filters, IsTerm term
  object_ne (h : f.filters ≠ []) : f.object ≠ ""

variable {flag : String} {f : Flag}

/-! ## Writing and splitting -/

theorem toList_text (h : f.filters ≠ []) :
    f.text.toList = f.object.toList ++ '@' :: Text.join [';'] (f.filters.map String.toList) := by
  rw [text, if_neg h]
  simp [Text.joinStrings]

/-- A text without the separator is an object alone. -/
theorem split_of_not_mem (h : '@' ∉ flag.toList) : split flag = .ok { object := flag, filters := [] } := by
  rw [split, Text.cut_eq_none_iff.2 h]

/-- What is made of the texts before and after the first separator. -/
theorem split_of_eq_append {object rest : List Char} (h : flag.toList = object ++ '@' :: rest)
    (ho : '@' ∉ object) : split flag =
      if '@' ∈ rest then .error (.multipleSeparators flag)
      else if object = [] ∨ [] ∈ Text.fields ';' rest then .error (.missingPart flag)
      else .ok {
        object := String.ofList object
        filters := (Text.fields ';' rest).map String.ofList } := by
  rw [split, Text.cut_eq_some_iff.2 ⟨h, ho⟩]

/-- A flag that is written and split is the flag. -/
theorem split_text (h : f.IsWritable) : split f.text = .ok f := by
  obtain ⟨object, filters⟩ := f
  by_cases hf : filters = []
  · subst hf
    exact split_of_not_mem h.not_mem_at
  have hterm (part : List Char) (hp : part ∈ filters.map String.toList) :
      part ≠ [] ∧ '@' ∉ part ∧ ';' ∉ part := by
    obtain ⟨term, ht, rfl⟩ := List.mem_map.1 hp
    have hterm := h.isTerm term ht
    exact ⟨by simpa using hterm.ne_empty, hterm.not_mem_at, hterm.not_mem_semicolon⟩
  have hrest : '@' ∉ Text.join [';'] (filters.map String.toList) := by
    intro hm
    obtain hc | ⟨part, hp, hm⟩ := Text.mem_join hm
    · cases hc
    · exact (hterm part hp).2.1 hm
  have hfields : Text.fields ';' (Text.join [';'] (filters.map String.toList)) =
      filters.map String.toList :=
    Text.fields_join (by simpa using hf) fun part hp => (hterm part hp).2.2
  have hparts : ¬ (object.toList = [] ∨ [] ∈ filters.map String.toList) := by
    intro hnil
    obtain ho | hnil := hnil
    · exact h.object_ne hf (by simpa using ho)
    · exact (hterm [] hnil).1 rfl
  rw [split_of_eq_append (toList_text hf) h.not_mem_at, if_neg hrest, hfields, if_neg hparts]
  simp [Function.comp_def]

/-- What a text is split into, with the text before and after the separator if it has one. -/
theorem split_cases (h : split flag = .ok f) :
    '@' ∉ flag.toList ∧ f = { object := flag, filters := [] } ∨
      ∃ object rest, flag.toList = object ++ '@' :: rest ∧ '@' ∉ object ∧ '@' ∉ rest ∧ object ≠ [] ∧
        [] ∉ Text.fields ';' rest ∧
        f = { object := String.ofList object, filters := (Text.fields ';' rest).map String.ofList } := by
  cases hcut : Text.cut '@' flag.toList with
  | none =>
    have hno := Text.cut_eq_none_iff.1 hcut
    rw [split_of_not_mem hno] at h
    cases h
    exact .inl ⟨hno, rfl⟩
  | some parts =>
    obtain ⟨object, rest⟩ := parts
    obtain ⟨heq, ho⟩ := Text.cut_eq_some_iff.1 hcut
    rw [split_of_eq_append heq ho] at h
    split at h
    · cases h
    next hat =>
    split at h
    · cases h
    next hparts =>
    cases h
    obtain ⟨hne, hterms⟩ := not_or.1 hparts
    exact .inr ⟨object, rest, heq, ho, hat, hne, hterms, rfl⟩

/-- The text of what a text is split into is that text. -/
theorem text_of_split (h : split flag = .ok f) : f.text = flag := by
  obtain ⟨-, rfl⟩ | ⟨object, rest, heq, -, -, -, -, rfl⟩ := split_cases h
  · rfl
  · have hne : (Text.fields ';' rest).map String.ofList ≠ [] := by
      simpa using Text.fields_ne_nil ';' rest
    rw [← String.toList_inj, toList_text hne, heq]
    simp [Function.comp_def, Text.join_fields]

/-- What a text is split into can be written. -/
theorem isWritable_of_split (h : split flag = .ok f) : f.IsWritable := by
  obtain ⟨hno, rfl⟩ | ⟨object, rest, -, ho, hat, hne, hterms, rfl⟩ := split_cases h
  · exact ⟨hno, fun _ ht => absurd ht List.not_mem_nil, fun hf => absurd rfl hf⟩
  · refine ⟨by simpa using ho, fun term ht => ?_, fun _ => by simpa using hne⟩
    obtain ⟨part, hpart, rfl⟩ := List.mem_map.1 ht
    have hpne : part ≠ [] := fun hnil => hterms (hnil ▸ hpart)
    refine ⟨by simpa using hpne, fun hm => hat ?_, fun hm => ?_⟩
    · exact Text.mem_of_mem_fields hpart (by simpa using hm)
    · exact Text.not_mem_of_mem_fields hpart (by simpa using hm)

theorem isTerm_of_split (h : split flag = .ok f) {text : String} (ht : text ∈ f.filters) :
    IsTerm text :=
  (isWritable_of_split h).isTerm text ht

/-! ## Texts that cannot be split -/

/-- A text with an object before a separator and terms after it, where the object or a term is empty. -/
def LacksPart (cs : List Char) : Prop :=
  ∃ object terms, cs = object ++ '@' :: Text.join [';'] terms ∧ terms ≠ [] ∧
    (∀ term ∈ terms, ';' ∉ term) ∧ (object = [] ∨ [] ∈ terms)

/-- All separators but the first stand after the first. -/
theorem count_at {cs object rest : List Char} (h : cs = object ++ '@' :: rest) (ho : '@' ∉ object) :
    cs.count '@' = rest.count '@' + 1 := by
  rw [h, List.count_append, List.count_eq_zero.2 ho, List.count_cons_self, Nat.zero_add]

theorem split_of_one_lt_count (h : 1 < flag.toList.count '@') :
    split flag = .error (.multipleSeparators flag) := by
  have hmem : '@' ∈ flag.toList := List.count_pos_iff.1 (by omega)
  obtain ⟨object, rest, heq, ho⟩ := List.eq_append_cons_of_mem hmem
  have hrest : '@' ∈ rest := List.count_pos_iff.1 (by have := count_at heq ho; omega)
  rw [split_of_eq_append heq ho, if_pos hrest]

theorem split_of_lacksPart (h : flag.toList.count '@' = 1) (hl : LacksPart flag.toList) :
    split flag = .error (.missingPart flag) := by
  obtain ⟨object, terms, heq, hne, hterms, hempty⟩ := hl
  have hone : object.count '@' + ((Text.join [';'] terms).count '@' + 1) = 1 := by
    rw [← List.count_cons_self, ← List.count_append, ← heq, h]
  have ho : '@' ∉ object := List.count_eq_zero.1 (by omega)
  have hrest : '@' ∉ Text.join [';'] terms := List.count_eq_zero.1 (by omega)
  rw [split_of_eq_append heq ho, if_neg hrest, Text.fields_join hne hterms, if_pos hempty]

/-- Why a text cannot be split. -/
theorem split_error_cases {e : FilterError} (h : split flag = .error e) :
    e = .multipleSeparators flag ∧ 1 < flag.toList.count '@' ∨
      e = .missingPart flag ∧ flag.toList.count '@' = 1 ∧ LacksPart flag.toList := by
  have hmem : '@' ∈ flag.toList := Decidable.byContradiction fun hno => by
    cases h.symm.trans (split_of_not_mem hno)
  obtain ⟨object, rest, heq, ho⟩ := List.eq_append_cons_of_mem hmem
  have hcount := count_at heq ho
  rw [split_of_eq_append heq ho] at h
  split at h
  · next hat =>
    cases h
    have hpos : 0 < rest.count '@' := List.count_pos_iff.2 hat
    exact .inl ⟨rfl, by omega⟩
  next hat =>
  split at h
  · next hempty =>
    cases h
    rw [List.count_eq_zero.2 hat] at hcount
    refine .inr ⟨rfl, hcount, object, Text.fields ';' rest, ?_, Text.fields_ne_nil ';' rest,
      fun _ => Text.not_mem_of_mem_fields, hempty⟩
    rw [Text.join_fields, heq]
  · cases h

/-- Whether `splitter` takes apart exactly the texts of flags, each into the flag that it is the text of,
and tells of a text with more separators than one, and of one that lacks a part. -/
structure SplitsExactly (splitter : String → Except FilterError Flag) : Prop where
  of_text {f : Flag} (h : f.IsWritable) : splitter f.text = .ok f
  text_eq {flag : String} {f : Flag} (h : splitter flag = .ok f) : f.IsWritable ∧ f.text = flag
  multipleSeparators_iff {flag : String} :
    splitter flag = .error (.multipleSeparators flag) ↔ 1 < flag.toList.count '@'
  missingPart_iff {flag : String} : splitter flag = .error (.missingPart flag) ↔
    flag.toList.count '@' = 1 ∧ LacksPart flag.toList
  /-- No other errors are told, and none of another text. -/
  error_cases {flag : String} {e : FilterError} (h : splitter flag = .error e) :
    e = .multipleSeparators flag ∨ e = .missingPart flag

theorem splitsExactly_split : SplitsExactly split where
  of_text := split_text
  text_eq h := ⟨isWritable_of_split h, text_of_split h⟩
  multipleSeparators_iff := by
    refine ⟨fun h => ?_, split_of_one_lt_count⟩
    obtain ⟨-, hcount⟩ | ⟨he, -⟩ := split_error_cases h
    · exact hcount
    · cases he
  missingPart_iff := by
    refine ⟨fun h => ?_, fun h => split_of_lacksPart h.1 h.2⟩
    obtain ⟨he, -⟩ | ⟨-, hlacks⟩ := split_error_cases h
    · cases he
    · exact hlacks
  error_cases h := (split_error_cases h).imp And.left And.left

/-- A semicolon belongs to the object before the separator, and between terms after it. -/
example : split "a;b@x;y" = .ok { object := "a;b", filters := ["x", "y"] } ∧
    split "a@;x" = .error (.missingPart "a@;x") :=
  ⟨rfl, rfl⟩

end ClusterPlan.Flag
