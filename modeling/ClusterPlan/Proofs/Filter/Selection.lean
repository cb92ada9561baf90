import ClusterPlan.Filter.Selection
import ClusterPlan.Proofs.Filter.Grammar

/-!
# What filters select

Which candidates a filter is meant to select (`Filter.Selects`), a text (`TextSelects`) and a list of
texts (`Selected`), said by the grammar of filters and by the rank of a candidate among those of its
role. Where `select` succeeds, it gives exactly the positions that are meant (`mem_of_select`), in
increasing order (`select_sublist`), and not none of them if there are filters (`ne_nil_of_select`).
-/

namespace ClusterPlan

/-! ## The meaning of filters -/

/-- Whether the member with a rank is in the subset of a group of `available` members. A range goes
from the first member to the last where its bounds are left out. -/
def Subset.Contains (available rank : Nat) : Subset → Prop
  | .whole => True
  | .list indexes => rank ∈ indexes
  | .range first last => first.getD 0 ≤ rank ∧ rank ≤ last.getD (available - 1)

/-- How many candidates with a role stand before a position. -/
def rankAt (roles : List Role) (i : Nat) (r : Role) : Nat :=
  (roles.take i).count r

/-- Whether a filter selects the candidate at a position, for candidates given by their roles. -/
def Filter.Selects (roles : List Role) (i : Nat) (f : Filter) : Prop :=
  match f.group with
  | .all => i < roles.length
  | .role r => roles[i]? = some r ∧ f.subset.Contains (roles.count r) (rankAt roles i r)

/-- Whether the filter that a text denotes selects the candidate at a position. A text that denotes
no filter selects nothing. -/
def TextSelects (roles : List Role) (i : Nat) (text : String) : Prop :=
  ∃ f, Filter.Written text.toList f ∧ f.Selects roles i

/-- Whether a list of texts selects the candidate at a position: every candidate is selected by no
filters at all. -/
def Selected (roles : List Role) (filters : List String) (i : Nat) : Prop :=
  filters = [] ∨ ∃ text ∈ filters, TextSelects roles i text

theorem textSelects_iff_of_read {roles : List Role} {i : Nat} {text : String} {f : Filter}
    (h : Filter.read text = .ok f) : TextSelects roles i text ↔ f.Selects roles i := by
  constructor
  · rintro ⟨g, hg, hs⟩
    rw [← Filter.read_eq_ok_iff, h] at hg
    cases hg
    exact hs
  · exact fun hs => ⟨f, Filter.read_eq_ok_iff.1 h, hs⟩

theorem rankAt_lt {roles : List Role} {i : Nat} {r : Role} (h : roles[i]? = some r) :
    rankAt roles i r < roles.count r := by
  obtain ⟨hi, rfl⟩ := List.getElem?_eq_some_iff.1 h
  have hsplit := congrArg (List.count roles[i]) (List.take_append_drop i roles)
  rw [List.count_append, List.drop_eq_getElem_cons hi, List.count_cons_self] at hsplit
  unfold rankAt
  omega

/-- Among the ranks of a group, a subset holds those that it contains. -/
theorem Subset.holds_iff {available rank : Nat} (h : rank < available) (s : Subset) :
    s.holds rank ↔ s.Contains available rank := by
  cases s with
  | whole => simp [holds, Contains]
  | list => simp [holds, Contains]
  | range first last =>
    cases last with
    | none =>
      have : rank ≤ available - 1 := by omega
      simp [holds, Contains, this]
    | some last => simp [holds, Contains]

/-! ## Ranks and positions -/

namespace Selection

theorem getElem?_ranked_go (seen : Role → Nat) (roles : List Role) (i : Nat) :
    (ranked.go seen roles)[i]? = roles[i]?.map fun r => (r, seen r + rankAt roles i r) := by
  induction roles generalizing seen i with
  | nil => rfl
  | cons role roles ih =>
    cases i with
    | zero => simp [ranked.go, rankAt]
    | succ i =>
      rw [ranked.go, List.getElem?_cons_succ, List.getElem?_cons_succ, ih]
      refine Option.map_congr fun r _ => ?_
      by_cases h : r = role
      · subst h
        simp only [rankAt, if_true, List.take_succ_cons, List.count_cons_self]
        congr 1
        omega
      · simp [rankAt, h, Ne.symm h]

theorem getElem?_ranked (roles : List Role) (i : Nat) :
    (ranked roles)[i]? = roles[i]?.map fun r => (r, rankAt roles i r) := by
  rw [ranked, getElem?_ranked_go]
  simp

theorem length_ranked_go (seen : Role → Nat) (roles : List Role) :
    (ranked.go seen roles).length = roles.length := by
  induction roles generalizing seen with
  | nil => rfl
  | cons role roles ih => rw [ranked.go, List.length_cons, List.length_cons, ih]

theorem mem_positions {roles : List Role} {picks : List Pick} {i : Nat} :
    i ∈ positions roles picks ↔
      ∃ r, roles[i]? = some r ∧ selects picks r (rankAt roles i r) := by
  simp only [positions, List.mem_filterMap, Prod.exists, List.mk_mem_zipIdx_iff_getElem?,
    getElem?_ranked, Option.map_eq_some_iff, Option.ite_none_right_eq_some, Option.some.injEq,
    Prod.mk.injEq]
  constructor
  · rintro ⟨_, _, _, ⟨r, hr, rfl, rfl⟩, hs, rfl⟩
    exact ⟨r, hr, hs⟩
  · rintro ⟨r, hr, hs⟩
    exact ⟨r, _, i, ⟨r, hr, rfl, rfl⟩, hs, rfl⟩

/-- The positions stand in increasing order and none of them twice. -/
theorem positions_sublist (roles : List Role) (picks : List Pick) :
    (positions roles picks).Sublist (List.range roles.length) := by
  have hmap : positions roles picks =
      ((ranked roles).zipIdx.filter fun p => selects picks p.1.1 p.1.2).map Prod.snd := by
    rw [positions, ← List.filterMap_eq_map, List.filterMap_filter]
    rfl
  have hsnd : (ranked roles).zipIdx.map Prod.snd = List.range roles.length := by
    rw [List.zipIdx_map_snd, ranked, length_ranked_go, List.range_eq_range']
  rw [hmap, ← hsnd]
  exact List.filter_sublist.map _

/-! ## Reading filters -/

/-- Picks are read from filters of roles alone. -/
theorem forall₂_of_read {roles : List Role} {texts : List String} {picks : List Pick}
    (h : read roles texts = .ok (.picks picks)) :
    List.Forall₂ (fun text p => Filter.read text = .ok { group := .role p.role, subset := p.subset })
      texts picks := by
  induction texts generalizing picks with
  | nil => cases h; exact .nil
  | cons text texts ih =>
    rw [read] at h
    split at h
    · cases h
    · cases h
    · next role subset hread =>
      split at h
      · cases h
      · split at h
        · next ps hps => cases h; exact .cons hread (ih hps)
        · next hother => exact absurd h (hother picks)

/-- Every candidate is asked for only because of a filter that says so. -/
theorem mem_of_read_all {roles : List Role} {texts : List String} {text : String}
    (h : read roles texts = .ok (.all text)) :
    text ∈ texts ∧ ∃ s, Filter.read text = .ok { group := .all, subset := s } := by
  induction texts with
  | nil => cases h
  | cons first texts ih =>
    rw [read] at h
    split at h
    · cases h
    · next s hread => cases h; exact ⟨List.mem_cons_self, s, hread⟩
    · split at h
      · cases h
      · split at h
        · cases h
        · obtain ⟨hmem, hall⟩ := ih h
          exact ⟨List.mem_cons_of_mem _ hmem, hall⟩

/-- A candidate is picked if one of the texts selects it. -/
theorem selects_iff {roles : List Role} {texts : List String} {picks : List Pick}
    (h : List.Forall₂ (fun text p => Filter.read text =
      .ok { group := .role p.role, subset := p.subset }) texts picks)
    {i : Nat} {r : Role} (hr : roles[i]? = some r) :
    selects picks r (rankAt roles i r) ↔ ∃ text ∈ texts, TextSelects roles i text := by
  induction h with
  | nil => simp [selects]
  | @cons text p texts picks hread _ ih =>
    have hp : (p.role = r && p.subset.holds (rankAt roles i r)) ↔ TextSelects roles i text := by
      rw [textSelects_iff_of_read hread, Bool.and_eq_true, decide_eq_true_eq,
        Subset.holds_iff (rankAt_lt hr)]
      simp only [Filter.Selects, hr, Option.some.injEq]
      constructor
      · rintro ⟨rfl, hc⟩
        exact ⟨rfl, hc⟩
      · rintro ⟨rfl, hc⟩
        exact ⟨rfl, hc⟩
    rw [List.exists_mem_cons_iff, ← hp, ← ih, ← Bool.or_eq_true]
    rfl

/-- The positions of the picks that are read from texts are those that the texts select. -/
theorem mem_positions_of_read {roles : List Role} {texts : List String} {picks : List Pick}
    (h : read roles texts = .ok (.picks picks)) {i : Nat} :
    i ∈ positions roles picks ↔ i < roles.length ∧ ∃ text ∈ texts, TextSelects roles i text := by
  have hsel {r : Role} (hr : roles[i]? = some r) := selects_iff (forall₂_of_read h) hr
  rw [mem_positions]
  constructor
  · rintro ⟨r, hr, hs⟩
    exact ⟨(List.getElem?_eq_some_iff.1 hr).1, (hsel hr).1 hs⟩
  · rintro ⟨hi, hs⟩
    have hr := List.getElem?_eq_getElem hi
    exact ⟨roles[i], hr, (hsel hr).2 hs⟩

end Selection

/-! ## Selecting -/

variable {roles : List Role} {filters : List String} {chosen : List Nat}

/-- What `select` gives, and why. -/
theorem select_cases (h : (select roles filters).result = .ok chosen) :
    filters = [] ∧ chosen = List.range roles.length ∨
    (∃ text s, text ∈ filters ∧ Filter.read text = .ok { group := .all, subset := s } ∧
      roles ≠ [] ∧ chosen = List.range roles.length) ∨
    ∃ picks, Selection.read roles filters = .ok (.picks picks) ∧
      chosen = Selection.positions roles picks ∧ chosen ≠ [] := by
  unfold select at h
  split at h
  · next hf => cases h; exact .inl ⟨hf, rfl⟩
  split at h
  · cases h
  · next text hread =>
    obtain ⟨hmem, s, hs⟩ := Selection.mem_of_read_all hread
    rw [Noted.result_bind, Noted.result_tellIf] at h
    simp only [Except.bind] at h
    split at h
    · cases h
    · next hne => cases h; exact .inr (.inl ⟨text, s, hmem, hs, hne, rfl⟩)
  · next picks hread =>
    dsimp only at h
    split at h
    · cases h
    · next hne => cases h; exact .inr (.inr ⟨picks, hread, rfl, hne⟩)

/-- The selected positions stand in the order of the candidates, none of them twice. -/
theorem select_sublist (h : (select roles filters).result = .ok chosen) :
    chosen.Sublist (List.range roles.length) := by
  obtain ⟨-, rfl⟩ | ⟨-, -, -, -, -, rfl⟩ | ⟨picks, -, rfl, -⟩ := select_cases h
  · exact List.Sublist.refl _
  · exact List.Sublist.refl _
  · exact Selection.positions_sublist roles picks

/-- The selected positions are those that the filters are meant to select. -/
theorem mem_of_select (h : (select roles filters).result = .ok chosen) {i : Nat} :
    i ∈ chosen ↔ i < roles.length ∧ Selected roles filters i := by
  obtain ⟨rfl, rfl⟩ | ⟨text, s, hmem, hs, -, rfl⟩ | ⟨picks, hread, rfl, hne⟩ := select_cases h
  · simp [Selected]
  · rw [List.mem_range]
    refine ⟨fun hi => ⟨hi, .inr ⟨text, hmem, ?_⟩⟩, And.left⟩
    exact (textSelects_iff_of_read hs).2 hi
  · rw [Selection.mem_positions_of_read hread]
    refine and_congr_right fun _ => ⟨.inr, fun hs => hs.resolve_left ?_⟩
    rintro rfl
    cases hread
    exact hne (by simp [Selection.positions, Selection.selects])

/-- Filters that are given select something. -/
theorem ne_nil_of_select (h : (select roles filters).result = .ok chosen) (hf : filters ≠ []) :
    chosen ≠ [] := by
  obtain ⟨rfl, -⟩ | ⟨-, -, -, -, hne, rfl⟩ | ⟨-, -, -, hne⟩ := select_cases h
  · exact absurd rfl hf
  · exact fun he => hne (List.length_eq_zero_iff.1 (List.range_eq_nil.1 he))
  · exact hne

end ClusterPlan
