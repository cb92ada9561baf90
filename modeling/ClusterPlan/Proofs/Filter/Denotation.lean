import ClusterPlan.Proofs.Filter.Selection

/-!
# The set that filters denote

Filters are read from left to right up to the first that stands for all nodes (`upToAll`), and each of
them has to fit the candidates (`TextFits`). `Denoted` is the set of candidates that the filters read
denote. Selecting succeeds exactly if the filters fit and the set is not empty
(`exists_select_iff`), and then gives the set in increasing order (`mem_select_iff`);
`denotes_roleResolver` says so of the resolver that goes by roles. The members of a group are found in the
list of its positions, where a subset that fits asks for none beyond its end (`Subset.lt_of_mem_ranks`).
-/

namespace ClusterPlan

variable {roles : List Role} {filters texts : List String} {text : String} {r : Role} {i : Nat}

/-! ## Subsets that fit their group -/

/-- Whether a group of `available` members has all that a subset asks for. A range from the first member
on asks for nothing in an empty group. -/
def Subset.Fits (available : Nat) : Subset → Prop
  | .whole => True
  | .list indexes => ∀ index ∈ indexes, index < available
  | .range first last =>
    available = 0 ∧ last = none ∧ first.getD 0 = 0 ∨
      first.getD 0 ≤ last.getD (available - 1) ∧ last.getD (available - 1) < available

/-- The ranks that a subset asks for in a group of `available` members. -/
def Subset.ranks (available : Nat) : Subset → List Nat
  | .whole => List.range available
  | .list indexes => indexes
  | .range first last => List.range' (first.getD 0) (last.elim available (· + 1) - first.getD 0)

namespace Subset

variable {available rank : Nat} {s : Subset}

theorem check_eq_ok_iff : s.check text available = .ok () ↔ s.Fits available := by
  cases s with
  | whole => simp [check, Fits]
  | list indexes =>
    simp only [check, Fits]
    split
    · next index h =>
      have hle : available ≤ index := by simpa using List.find?_some h
      have hnot : ¬ ∀ index ∈ indexes, index < available := fun hall =>
        absurd (hall index (List.mem_of_find?_eq_some h)) (Nat.not_lt.2 hle)
      simp [hnot]
    · next h => simpa using h
  | range first last =>
    simp only [check, Fits]
    split
    · split <;> simp [*]
    · next hne =>
      have hcorner : ¬ (available = 0 ∧ last = none ∧ first.getD 0 = 0) := fun h => hne h.2.1 h.1
      rw [or_iff_right hcorner]
      split
      · next h => simp [Nat.not_le.2 h]
      split
      · next h => simp [Nat.not_lt.2 h]
      · next hlast hfirst => simp [Nat.not_lt.1 hlast, Nat.not_le.1 hfirst]

/-- A subset that fits a group asks for no rank beyond the end of the group. -/
theorem lt_of_mem_ranks (h : s.Fits available) (hr : rank ∈ s.ranks available) :
    rank < available := by
  cases s with
  | whole => exact List.mem_range.1 hr
  | list => exact h rank hr
  | range first last =>
    simp only [ranks, List.mem_range'_1] at hr
    cases last with
    | none => simp only [Option.elim_none] at hr; omega
    | some last =>
      simp only [Fits, Option.getD_some, reduceCtorEq, false_and, and_false, false_or] at h
      simp only [Option.elim_some] at hr
      omega

theorem mem_ranks_iff (h : rank < available) : rank ∈ s.ranks available ↔ s.Contains available rank := by
  cases s with
  | whole => simp [ranks, Contains, h]
  | list => rfl
  | range first last =>
    simp only [ranks, Contains, List.mem_range'_1]
    cases last with
    | none => simp only [Option.elim_none, Option.getD_none]; omega
    | some last => simp only [Option.elim_some, Option.getD_some]; omega

end Subset

/-! ## The members of a group -/

/-- The positions of the candidates with a role. -/
def members (roles : List Role) (r : Role) : List Nat :=
  (List.range roles.length).filter fun i => roles[i]? = some r

theorem members_cons (q : Role) :
    members (q :: roles) r = (if q = r then [0] else []) ++ (members roles r).map (· + 1) := by
  simp only [members, List.length_cons, List.range_succ_eq_map, List.filter_cons, List.filter_map]
  split <;> simp_all [Function.comp_def]

theorem length_members : (members roles r).length = roles.count r := by
  induction roles with
  | nil => rfl
  | cons q roles ih =>
    rw [members_cons, List.length_append, List.length_map, ih, List.count_cons, Nat.add_comm]
    split <;> simp_all

/-- The member with a rank is the candidate that has this rank among those of its role. -/
theorem getElem?_members {rank : Nat} :
    (members roles r)[rank]? = some i ↔ roles[i]? = some r ∧ rankAt roles i r = rank := by
  induction roles generalizing rank i with
  | nil => simp [members]
  | cons q roles ih =>
    rw [members_cons]
    by_cases hq : q = r
    · subst hq
      cases i with
      | zero => cases rank <;> simp [rankAt]
      | succ i =>
        cases rank with
        | zero => simp [rankAt]
        | succ rank => simpa [rankAt] using ih
    · cases i with
      | zero => simp [hq]
      | succ i => simpa [hq, rankAt] using ih

/-- A filter of a role selects the members whose ranks its subset asks for. -/
theorem selects_iff_mem_ranks {s : Subset} :
    Filter.Selects roles i { group := .role r, subset := s } ↔
      ∃ rank ∈ s.ranks (roles.count r), (members roles r)[rank]? = some i := by
  simp only [Filter.Selects, getElem?_members]
  constructor
  · rintro ⟨hr, hc⟩
    exact ⟨_, (Subset.mem_ranks_iff (rankAt_lt hr)).2 hc, hr, rfl⟩
  · rintro ⟨_, hrank, hr, rfl⟩
    exact ⟨hr, (Subset.mem_ranks_iff (rankAt_lt hr)).1 hrank⟩

/-! ## Filters that are read -/

/-- A filter that stands for all nodes. -/
def IsAll (text : String) : Prop :=
  text = "all" ∨ text = "all[*]"

instance : DecidablePred IsAll :=
  fun text => inferInstanceAs (Decidable (text = "all" ∨ text = "all[*]"))

/-- The filters up to the first that stands for all nodes. -/
def upToAll : List String → List String
  | [] => []
  | text :: texts => if IsAll text then [text] else text :: upToAll texts

/-- Whether the groups of the candidates have all that a filter asks for. -/
def Filter.Fits (roles : List Role) (f : Filter) : Prop :=
  match f.group with
  | .all => True
  | .role r => f.subset.Fits (roles.count r)

/-- Whether a text denotes a filter that fits the candidates. -/
def TextFits (roles : List Role) (text : String) : Prop :=
  ∃ f, Filter.Written text.toList f ∧ f.Fits roles

/-- Whether the candidate at a position is in the set that filters denote. -/
def Denoted (roles : List Role) (filters : List String) (i : Nat) : Prop :=
  i < roles.length ∧ (filters = [] ∨ ∃ text ∈ upToAll filters, TextSelects roles i text)

theorem isAll_iff : IsAll text ↔ ∃ s, Filter.read text = .ok { group := .all, subset := s } := by
  constructor
  · rintro (rfl | rfl) <;> exact ⟨.whole, by decide +kernel⟩
  · rintro ⟨s, h⟩
    have hw := Filter.read_eq_ok_iff.1 h
    generalize hcs : text.toList = cs at hw
    cases hw with
    | group => exact .inl (String.toList_inj.1 hcs)
    | all => exact .inr (String.toList_inj.1 hcs)

theorem textFits_iff_of_read {f : Filter} (h : Filter.read text = .ok f) :
    TextFits roles text ↔ f.Fits roles := by
  constructor
  · rintro ⟨g, hg, hf⟩
    rw [← Filter.read_eq_ok_iff, h] at hg
    cases hg
    exact hf
  · exact fun hf => ⟨f, Filter.read_eq_ok_iff.1 h, hf⟩

theorem IsAll.selects (h : IsAll text) (hi : i < roles.length) : TextSelects roles i text := by
  obtain ⟨s, hs⟩ := isAll_iff.1 h
  exact (textSelects_iff_of_read hs).2 hi

theorem upToAll_append {more : List String} :
    upToAll (texts ++ more) =
      if ∃ t ∈ texts, IsAll t then upToAll texts else texts ++ upToAll more := by
  induction texts with
  | nil => simp
  | cons text texts ih =>
    simp only [List.cons_append, upToAll, ih, List.exists_mem_cons_iff]
    by_cases h : IsAll text
    · simp [h]
    · simp only [h, if_false, false_or]
      split <;> rfl

theorem mem_of_mem_upToAll (h : text ∈ upToAll texts) : text ∈ texts := by
  induction texts with
  | nil => exact h
  | cons first texts ih =>
    rw [upToAll] at h
    split at h
    · exact List.mem_cons.2 (.inl (List.mem_singleton.1 h))
    · exact (List.mem_cons.1 h).elim (fun he => List.mem_cons.2 (.inl he))
        fun hm => List.mem_cons_of_mem _ (ih hm)

/-- What is not read stands after a filter for all nodes. -/
theorem exists_isAll_of_not_mem_upToAll (h : text ∈ texts) (hn : text ∉ upToAll texts) :
    ∃ t ∈ upToAll texts, IsAll t := by
  induction texts with
  | nil => cases h
  | cons first texts ih =>
    rw [upToAll] at hn ⊢
    split
    · next hall => exact ⟨first, List.mem_singleton_self first, hall⟩
    · next hall =>
      rw [if_neg hall, List.mem_cons, not_or] at hn
      obtain ⟨t, ht, hall⟩ := ih ((List.mem_cons.1 h).resolve_left hn.1) hn.2
      exact ⟨t, List.mem_cons_of_mem _ ht, hall⟩

/-- The filters that are not read select no other candidates. -/
theorem denoted_iff : Denoted roles filters i ↔ i < roles.length ∧ Selected roles filters i := by
  refine and_congr_right fun hi => or_congr_right ⟨?_, ?_⟩
  · rintro ⟨text, ht, hs⟩
    exact ⟨text, mem_of_mem_upToAll ht, hs⟩
  · rintro ⟨text, ht, hs⟩
    by_cases hm : text ∈ upToAll filters
    · exact ⟨text, hm, hs⟩
    · obtain ⟨t, ht, hall⟩ := exists_isAll_of_not_mem_upToAll ht hm
      exact ⟨t, ht, hall.selects hi⟩

/-! ## Selecting -/

/-- Filters can be read if those up to the first for all nodes fit the candidates. -/
theorem Selection.exists_read_iff :
    (∃ s, Selection.read roles texts = .ok s) ↔ ∀ text ∈ upToAll texts, TextFits roles text := by
  induction texts with
  | nil => simp [Selection.read, upToAll]
  | cons text texts ih =>
    rw [Selection.read, upToAll]
    split
    · next e hread =>
      have hfits : ¬ TextFits roles text := by
        rintro ⟨f, hf, -⟩
        rw [← Filter.read_eq_ok_iff, hread] at hf
        cases hf
      split <;> simp [hfits]
    · next s hread =>
      simp [isAll_iff.2 ⟨s, hread⟩, textFits_iff_of_read hread, Filter.Fits]
    · next role subset hread =>
      have hall : ¬ IsAll text := fun h => by
        obtain ⟨s, hs⟩ := isAll_iff.1 h
        rw [hread] at hs
        cases hs
      have hfits : TextFits roles text ↔ subset.check text (roles.count role) = .ok () := by
        rw [textFits_iff_of_read hread, Subset.check_eq_ok_iff]
        rfl
      rw [if_neg hall, List.forall_mem_cons, hfits, ← ih]
      cases subset.check text (roles.count role) with
      | error => simp
      | ok =>
        simp only [true_and]
        cases Selection.read roles texts with
        | error => simp
        | ok s => cases s <;> simp

/-- Filters select candidates exactly if those that are read fit and denote some candidate. -/
theorem exists_select_iff (hf : filters ≠ []) :
    (∃ chosen, (select roles filters).result = .ok chosen) ↔
      (∀ text ∈ upToAll filters, TextFits roles text) ∧ ∃ i, Denoted roles filters i := by
  rw [← Selection.exists_read_iff, select, if_neg hf]
  cases hread : Selection.read roles filters with
  | error => simp
  | ok s =>
    have hs : ∃ s', Except.ok (ε := FilterError) s = .ok s' := ⟨s, rfl⟩
    rw [and_iff_right hs]
    cases s with
    | all text =>
      obtain ⟨hmem, hall⟩ := Selection.mem_of_read_all hread
      have hden : (∃ i, Denoted roles filters i) ↔ roles ≠ [] := by
        constructor
        · rintro ⟨i, hi, -⟩ rfl
          exact Nat.not_lt_zero i hi
        · intro hne
          have hpos := List.length_pos_iff.2 hne
          exact ⟨0, denoted_iff.2 ⟨hpos, .inr ⟨text, hmem, (isAll_iff.2 hall).selects hpos⟩⟩⟩
      rw [hden]
      by_cases hr : roles = [] <;> simp [hr, Except.bind]
    | picks picks =>
      have hden : (∃ i, Denoted roles filters i) ↔ Selection.positions roles picks ≠ [] := by
        simp only [denoted_iff, Selected, hf, false_or, ← Selection.mem_positions_of_read hread]
        constructor
        · rintro ⟨i, hi⟩
          exact List.ne_nil_of_mem hi
        · exact List.exists_mem_of_ne_nil _
      rw [hden]
      by_cases hp : Selection.positions roles picks = [] <;> simp [hp]

/-- What is selected is the set that the filters denote. -/
theorem mem_select_iff {chosen : List Nat} (h : (select roles filters).result = .ok chosen) :
    i ∈ chosen ↔ Denoted roles filters i :=
  (mem_of_select h).trans denoted_iff.symm

/-- The answer for filters is the set that they denote. -/
structure Denotes (roles : List Role) (filters : List String)
    (answer : Except FilterError (List Nat)) : Prop where
  unfiltered : filters = [] → answer = .ok (List.range roles.length)
  /-- There is an answer if the filters that are read fit the candidates and denote some of them. -/
  exists_iff : filters ≠ [] → ((∃ chosen, answer = .ok chosen) ↔
    (∀ text ∈ upToAll filters, TextFits roles text) ∧ ∃ i, Denoted roles filters i)
  increasing {chosen : List Nat} (h : answer = .ok chosen) : chosen.Pairwise (· < ·)
  mem_iff {chosen : List Nat} {i : Nat} (h : answer = .ok chosen) :
    i ∈ chosen ↔ Denoted roles filters i
  /-- A subset that passes its check asks for members that its group has. -/
  lt_length_members {text : String} {r : Role} {s : Subset} {rank : Nat}
    (h : s.check text (roles.count r) = .ok ()) (hr : rank ∈ s.ranks (roles.count r)) :
    rank < (members roles r).length
  /-- The candidates that a filter of a role selects are found among its members by these ranks. -/
  found {r : Role} {s : Subset} {i : Nat} : Filter.Selects roles i { group := .role r, subset := s } ↔
    ∃ rank ∈ s.ranks (roles.count r), (members roles r)[rank]? = some i

/-- The resolver that goes by roles answers with the set that the filters denote. -/
theorem denotes_roleResolver (asked : List Query) (candidates : List Node) (filters : List String) :
    Denotes (candidates.map Node.role) filters (roleResolver asked { candidates, filters }).result where
  unfiltered h := by
    subst h
    rfl
  exists_iff := exists_select_iff
  increasing h := List.pairwise_lt_range.sublist (select_sublist h)
  mem_iff := mem_select_iff
  lt_length_members h hr := by
    rw [length_members]
    exact Subset.lt_of_mem_ranks (Subset.check_eq_ok_iff.1 h) hr
  found := selects_iff_mem_ranks

/-- Members of two groups in a mixed list, and a range of a group that has none. -/
example : (select [.worker, .master, .worker, .worker]
    ["worker[1:]", "loadbalancer[:]", "master[+0]"]).result = .ok [1, 2, 3] := by
  decide +kernel

end ClusterPlan
