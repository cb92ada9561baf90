import ClusterPlan.Proofs.Filter.Grammar

/-!
# Texts that are filters and texts that are not

The name of a group, alone or with a text in brackets after it, has the shape of a filter
(`Filter.Shaped`), whatever stands in the brackets. A text of this shape is read as a filter, or what
stands in its brackets is told to be no subset of the group (`Filter.read_of_shaped`); any other text is
told to be no filter at all (`Filter.read_of_not_shaped`). `Filter.recognizes_read` puts this together:
what is read is what is written as a filter, and each of the two errors stands for one kind of text.
-/

namespace ClusterPlan.Filter

/-- A text with the shape of a filter, and what stands in its brackets: the name of a group alone, or with
brackets that end the text and hold no closing bracket. -/
inductive Shaped : List Char → Option (List Char) → Prop where
  | group (g : Group) : Shaped g.word.toList none
  | bracketed (g : Group) {sub : List Char} (h : ']' ∉ sub) :
    Shaped (g.word.toList ++ '[' :: sub ++ [']']) (some sub)

variable {cs : List Char} {brackets : Option (List Char)} {text : String}

/-- A text has the shape of a filter if it has parts and the first of them is the name of a group. -/
theorem shaped_iff : Shaped cs brackets ↔ ∃ g : Group, parts? cs = some (g.word.toList, brackets) := by
  simp only [parts?_eq_some_iff]
  constructor
  · intro h
    cases h with
    | group g => exact ⟨g, ⟨g.word_ne_nil, g.isGroupChar_word⟩, .inl ⟨rfl, rfl⟩⟩
    | bracketed g h => exact ⟨g, ⟨g.word_ne_nil, g.isGroupChar_word⟩, .inr ⟨_, rfl, h, rfl⟩⟩
  · intro ⟨g, _, h⟩
    obtain ⟨rfl, rfl⟩ | ⟨sub, rfl, hsub, rfl⟩ := h
    · exact .group g
    · exact .bracketed g hsub

/-- Of a text that has not the shape of a filter, nothing else is told. -/
theorem read_of_not_shaped (h : ∀ brackets, ¬ Shaped text.toList brackets) :
    read text = .error (.malformed text) := by
  unfold read
  split
  · rfl
  next name brackets hparts =>
  split
  · rfl
  next g hg =>
  obtain rfl := Group.ofName?_eq_some_iff.1 hg
  exact absurd (shaped_iff.2 ⟨g, hparts⟩) (h brackets)

/-- A text with the shape of a filter is one, or its brackets hold no subset of its group. -/
theorem read_of_shaped (h : Shaped text.toList brackets) :
    (∃ f, read text = .ok f) ∨
      ∃ sub, brackets = some sub ∧ read text = .error (.unknownSubset text (String.ofList sub)) := by
  obtain ⟨g, hparts⟩ := shaped_iff.1 h
  simp only [read, hparts, Group.ofName?_eq_some_iff.2 rfl]
  cases hs : subset? g brackets with
  | some s => exact .inl ⟨_, rfl⟩
  | none =>
    cases brackets with
    | none => cases hs
    | some sub => exact .inr ⟨sub, rfl, rfl⟩

/-- Why a text is not read: it has not the shape of a filter, or its brackets hold no subset. -/
theorem read_error_cases {e : FilterError} (h : read text = .error e) :
    (∀ brackets, ¬ Shaped text.toList brackets) ∧ e = .malformed text ∨
      ∃ sub, Shaped text.toList (some sub) ∧ e = .unknownSubset text (String.ofList sub) := by
  by_cases hshaped : ∃ brackets, Shaped text.toList brackets
  · obtain ⟨brackets, hshaped⟩ := hshaped
    obtain ⟨f, hf⟩ | ⟨sub, rfl, he⟩ := read_of_shaped hshaped
    · cases h.symm.trans hf
    · exact .inr ⟨sub, hshaped, Except.error.inj (h.symm.trans he)⟩
  · have hno := not_exists.1 hshaped
    exact .inl ⟨hno, Except.error.inj (h.symm.trans (read_of_not_shaped hno))⟩

/-- Whether `parse` reads exactly the texts that are written as filters, with the meaning they have, and
otherwise tells whether a text has the shape of a filter and what its brackets hold. -/
structure Recognizes (parse : String → Except FilterError Filter) : Prop where
  eq_ok_iff {text : String} {f : Filter} : parse text = .ok f ↔ Written text.toList f
  /-- A text has at most one meaning. -/
  unique {cs : List Char} {f f' : Filter} (h : Written cs f) (h' : Written cs f') : f = f'
  malformed_iff {text : String} :
    parse text = .error (.malformed text) ↔ ∀ brackets, ¬ Shaped text.toList brackets
  unknownSubset_iff {text subset : String} : parse text = .error (.unknownSubset text subset) ↔
    Shaped text.toList (some subset.toList) ∧ ∀ f, ¬ Written text.toList f
  /-- No other errors are told, and none of another text. -/
  error_cases {text : String} {e : FilterError} (h : parse text = .error e) :
    e = .malformed text ∨ ∃ subset, e = .unknownSubset text subset

theorem recognizes_read : Recognizes read where
  eq_ok_iff := read_eq_ok_iff
  unique {cs f f'} h h' := by
    have hf : read (String.ofList cs) = .ok f := read_eq_ok_iff.2 (by simpa using h)
    have hf' : read (String.ofList cs) = .ok f' := read_eq_ok_iff.2 (by simpa using h')
    exact Except.ok.inj (hf.symm.trans hf')
  malformed_iff {text} := by
    refine ⟨fun h => ?_, read_of_not_shaped⟩
    obtain ⟨hno, -⟩ | ⟨sub, -, he⟩ := read_error_cases h
    · exact hno
    · cases he
  unknownSubset_iff {text subset} := by
    constructor
    · intro h
      obtain ⟨-, he⟩ | ⟨sub, hshaped, he⟩ := read_error_cases h
      · cases he
      · cases he
        refine ⟨by rwa [String.toList_ofList], fun f hf => ?_⟩
        cases h.symm.trans (read_eq_ok_iff.2 hf)
    · intro ⟨hshaped, hno⟩
      obtain ⟨f, hf⟩ | ⟨sub, hsub, he⟩ := read_of_shaped hshaped
      · exact absurd (read_eq_ok_iff.1 hf) (hno f)
      · cases hsub
        rwa [String.ofList_toList] at he
  error_cases h := by
    obtain ⟨-, he⟩ | ⟨sub, -, he⟩ := read_error_cases h
    · exact .inl he
    · exact .inr ⟨_, he⟩

/-- A subset of a role is none of all nodes, and a bracket in the wrong place leaves no filter at all. -/
example : (Filter.read "worker[+1,02]", Filter.read "all[1]", Filter.read "worker[1]]") =
    (.ok { group := .role .worker, subset := .list [1, 2] },
      .error (.unknownSubset "all[1]" "1"), .error (.malformed "worker[1]]")) := by
  decide +kernel

end ClusterPlan.Filter
