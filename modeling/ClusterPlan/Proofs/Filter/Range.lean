import ClusterPlan.Proofs.Filter.Denotation

/-!
# Ranges that do not fit

What is told of a range that asks for more than its group has. Filters are read from left to right, so that
the first that fails is the one that is told (`result_select_append`), and a range fails because its end is
before its start, or because its end, or the start where no end is written, is the rank of no candidate of
its role. `answersRange_roleResolver` says what is told in each of these cases. The rank of the last member
stands in for an end that is not written before the two ends are compared: a start beyond a group that has
members is told as an end before its start, and only that of a group without members as an index that is
out of range (`exists_unended_range`).
-/

namespace ClusterPlan

variable {roles : List Role} {text : String} {r : Role} {first last : Option Nat}

/-! ## Ranks in a group -/

/-- The ranks of the candidates of a role are the numbers below the size of their group. -/
theorem exists_rank_iff {rank : Nat} :
    (∃ i, roles[i]? = some r ∧ rankAt roles i r = rank) ↔ rank < roles.count r := by
  simp only [← getElem?_members, ← length_members]
  constructor
  · rintro ⟨i, hi⟩
    exact (List.getElem?_eq_some_iff.1 hi).1
  · intro h
    exact ⟨_, List.getElem?_eq_getElem h⟩

/-- Whether a number is the rank of no candidate of a role. -/
def Unranked (roles : List Role) (r : Role) (rank : Nat) : Prop :=
  ∀ i, roles[i]? = some r → rankAt roles i r ≠ rank

theorem unranked_iff {rank : Nat} : Unranked roles r rank ↔ roles.count r ≤ rank := by
  rw [← Nat.not_lt, ← exists_rank_iff]
  simp only [Unranked, not_exists, not_and, ne_eq]

/-! ## The first filter that fails -/

/-- Whether filters are all read, and what comes after them too: each fits the candidates, and none stands
for all nodes. -/
def ReadThrough (roles : List Role) (filters : List String) : Prop :=
  ∀ text ∈ filters, TextFits roles text ∧ ¬ IsAll text

/-- Filters that are read through make no difference to an error after them. -/
theorem Selection.read_append_of_error {before texts : List String} {e : FilterError}
    (hb : ReadThrough roles before) (h : Selection.read roles texts = .error e) :
    Selection.read roles (before ++ texts) = .error e := by
  induction before with
  | nil => exact h
  | cons text before ih =>
    obtain ⟨⟨hfits, hall⟩, hb⟩ := List.forall_mem_cons.1 hb
    obtain ⟨⟨group, subset⟩, hw, hf⟩ := hfits
    have hread := Filter.read_eq_ok_iff.2 hw
    rw [List.cons_append, Selection.read, hread]
    cases group with
    | all => exact absurd (isAll_iff.2 ⟨subset, hread⟩) hall
    | role q =>
      have hcheck : subset.check text (roles.count q) = .ok () := Subset.check_eq_ok_iff.2 hf
      simp only [hcheck, ih hb]

/-- A filter of a role whose subset does not fit is told if it is the first that fails. -/
theorem result_select_append {before after : List String} {s : Subset} {e : FilterError}
    (hb : ReadThrough roles before)
    (hw : Filter.Written text.toList { group := .role r, subset := s })
    (he : s.check text (roles.count r) = .error e) :
    (select roles (before ++ text :: after)).result = .error e := by
  have hread : Selection.read roles (text :: after) = .error e := by
    simp only [Selection.read, Filter.read_eq_ok_iff.2 hw, he]
  rw [select, if_neg (by simp), Selection.read_append_of_error hb hread]
  rfl

/-! ## Ranges -/

namespace Subset

variable {available start stop : Nat}

/-- What is told of a range with an end. -/
theorem check_range_some : (range first (some stop)).check text available =
    if stop < first.getD 0 then .error (.invalidRange text)
    else if available ≤ stop then .error (.indexOutOfRange text stop available) else .ok () := rfl

/-- What is told of a range without an end, by the size of its group. -/
theorem check_range_none : (range first none).check text available =
    if available = 0 then
      if first.getD 0 = 0 then .ok () else .error (.indexOutOfRange text (first.getD 0) 0)
    else if available ≤ first.getD 0 then .error (.invalidRange text) else .ok () := by
  cases available with
  | zero => rfl
  | succ n =>
    -- The last member has the rank `n`, at which the group does not end.
    change (if n < first.getD 0 then _ else if n + 1 ≤ n then _ else _) = _
    rw [if_neg (Nat.not_succ_le_self n), if_neg (Nat.succ_ne_zero n)]
    rfl

end Subset

/-- What is answered where the first filter that may fail is a range of a role: whether the range fits, and
otherwise what is told of it. -/
structure AnswersRange (roles : List Role) (text : String) (r : Role) (first last : Option Nat)
    (answer : Except FilterError (List Nat)) : Prop where
  fits_iff_of_end {stop : Nat} (hl : last = some stop) :
    TextFits roles text ↔ first.getD 0 ≤ stop ∧ ¬ Unranked roles r stop
  fits_iff_of_no_end (hl : last = none) :
    TextFits roles text ↔ first.getD 0 = 0 ∨ ¬ Unranked roles r (first.getD 0)
  end_before_start {stop : Nat} (hl : last = some stop) (h : stop < first.getD 0) :
    answer = .error (.invalidRange text)
  end_beyond {stop : Nat} (hl : last = some stop) (h : first.getD 0 ≤ stop)
    (hr : Unranked roles r stop) : answer = .error (.indexOutOfRange text stop (roles.count r))
  start_beyond_none (hl : last = none) (hs : first.getD 0 ≠ 0) (hr : r ∉ roles) :
    answer = .error (.indexOutOfRange text (first.getD 0) 0)
  /-- The rank of the last member stands in for the end, and is before the start. -/
  start_beyond_some (hl : last = none) (hs : Unranked roles r (first.getD 0)) (hr : r ∈ roles) :
    answer = .error (.invalidRange text)

/-- What the resolver that goes by roles answers where the first filter that may fail is a range. -/
theorem answersRange_roleResolver {asked : List Query} {candidates : List Node}
    {before after : List String} (hb : ReadThrough (candidates.map Node.role) before)
    (hw : Filter.Written text.toList { group := .role r, subset := .range first last }) :
    AnswersRange (candidates.map Node.role) text r first last
      (roleResolver asked { candidates, filters := before ++ text :: after }).result := by
  have hfits : TextFits (candidates.map Node.role) text ↔
      (Subset.range first last).check text ((candidates.map Node.role).count r) = .ok () := by
    rw [textFits_iff_of_read (Filter.read_eq_ok_iff.2 hw), Subset.check_eq_ok_iff]
    rfl
  have htold {e : FilterError} (he : (Subset.range first last).check text
      ((candidates.map Node.role).count r) = .error e) :
      (roleResolver asked { candidates, filters := before ++ text :: after }).result = .error e :=
    result_select_append hb hw he
  generalize candidates.map Node.role = roles at hfits htold ⊢
  constructor
  case fits_iff_of_end =>
    rintro stop rfl
    rw [hfits, Subset.check_range_some, unranked_iff]
    split_ifs <;> simp <;> omega
  case fits_iff_of_no_end =>
    rintro rfl
    rw [hfits, Subset.check_range_none, unranked_iff]
    split_ifs <;> simp <;> omega
  case end_before_start =>
    rintro stop rfl h
    exact htold (by rw [Subset.check_range_some, if_pos h])
  case end_beyond =>
    rintro stop rfl h hr
    exact htold (by rw [Subset.check_range_some, if_neg (Nat.not_lt.2 h), if_pos (unranked_iff.1 hr)])
  case start_beyond_none =>
    rintro rfl hs hr
    exact htold (by rw [Subset.check_range_none, if_pos (List.count_eq_zero.2 hr), if_neg hs])
  case start_beyond_some =>
    rintro rfl hs hr
    have hpos : roles.count r ≠ 0 := fun h => absurd hr (List.count_eq_zero.1 h)
    exact htold (by rw [Subset.check_range_none, if_neg hpos, if_pos (unranked_iff.1 hs)])

/-- After a filter that is read, a range whose end is beyond its group. -/
theorem exists_answersRange :
    ReadThrough [.worker, .master, .worker] ["master[*]"] ∧
    Filter.Written "worker[1:2]".toList { group := .role .worker, subset := .range (some 1) (some 2) } ∧
    ∃ candidates, candidates.map Node.role = [.worker, .master, .worker] ∧
      (roleResolver [] { candidates, filters := ["master[*]", "worker[1:2]", "agent"] }).result =
        .error (.indexOutOfRange "worker[1:2]" 2 2) := by
  have hb : ReadThrough [.worker, .master, .worker] ["master[*]"] := by
    intro text ht
    obtain rfl := List.mem_singleton.1 ht
    have hmaster : Filter.Written "master[*]".toList { group := .role .master, subset := .whole } :=
      Filter.read_eq_ok_iff.1 (by decide +kernel)
    exact ⟨⟨_, hmaster, trivial⟩, by decide +kernel⟩
  have hw : Filter.Written "worker[1:2]".toList
      { group := .role .worker, subset := .range (some 1) (some 2) } :=
    Filter.read_eq_ok_iff.1 (by decide +kernel)
  obtain ⟨candidates, hroles⟩ : ∃ candidates, candidates.map Node.role = [.worker, .master, .worker] :=
    ⟨[Node.worker "k3s" [], Node.master "k3s" [] false, Node.worker "k3s" []], rfl⟩
  have htold : AnswersRange (candidates.map Node.role) "worker[1:2]" .worker (some 1) (some 2)
      (roleResolver [] { candidates, filters := ["master[*]"] ++ "worker[1:2]" :: ["agent"] }).result :=
    answersRange_roleResolver (hroles ▸ hb) hw
  rw [hroles] at htold
  exact ⟨hb, hw, candidates, hroles, htold.end_beyond rfl (by decide) (unranked_iff.2 (by decide))⟩

/-- A range without an end is told to end before its start if its group has members, although it is told to
be out of range if its group has none. -/
theorem exists_unended_range :
    Filter.Written "worker[5:]".toList { group := .role .worker, subset := .range (some 5) none } ∧
    (roleResolver [] {
        candidates := [Node.worker "k3s" [], Node.worker "k3s" []]
        filters := ["worker[5:]"] }).result = .error (.invalidRange "worker[5:]") ∧
    (roleResolver [] {
        candidates := [Node.master "k3s" [] false]
        filters := ["worker[5:]"] }).result = .error (.indexOutOfRange "worker[5:]" 5 0) :=
  ⟨Filter.read_eq_ok_iff.1 (by decide +kernel), by decide +kernel, by decide +kernel⟩

end ClusterPlan
