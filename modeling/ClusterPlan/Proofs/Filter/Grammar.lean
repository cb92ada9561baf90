import ClusterPlan.Filter.Basic
import ClusterPlan.Proofs.Text.Numeral
import Mathlib.Data.List.Forall2
import Mathlib.Data.List.TakeWhile

/-!
# The grammar of node filters

How filters are written, said without the reader: `Subset.Written` for what stands between the
brackets and `Filter.Written` for a whole filter. `Subset.read?_eq_some_iff` and `Filter.read_eq_ok_iff`
say that the readers accept exactly what is written this way, with the meaning it has there.
-/

namespace ClusterPlan

/-- The name of a group in filters. -/
def Group.word : Group → String
  | .all => "all"
  | .role r => r.word

theorem Group.ofName?_eq_some_iff {name : List Char} {g : Group} :
    Group.ofName? name = some g ↔ name = g.word.toList := by
  constructor
  · intro h
    unfold Group.ofName? at h
    split at h
    · next hn => cases h; exact hn
    split at h
    · next hn => cases h; exact hn
    split at h
    · next hn => cases h; exact hn
    split at h
    · next hn => cases h; exact hn
    · cases h
  · rintro rfl
    match g with
    | .all | .role .master | .role .worker | .role .loadBalancer => decide +kernel

/-- The name of a group consists of lower case letters. -/
theorem Group.isGroupChar_word (g : Group) : ∀ c ∈ g.word.toList, Filter.isGroupChar c := by
  rw [← List.all_eq_true]
  match g with
  | .all | .role .master | .role .worker | .role .loadBalancer => decide +kernel

theorem Group.word_ne_nil (g : Group) : g.word.toList ≠ [] := by
  match g with
  | .all | .role .master | .role .worker | .role .loadBalancer => decide +kernel

/-! ## Subsets -/

namespace Subset

/-- An index in a group: a number of 64 bits. -/
abbrev IsIndex : List Char → Nat → Prop := Decimal.IsNatural Decimal.wordLimit

/-- An end of a range: an index, or nothing if it is the end of the group. -/
inductive IsBound : List Char → Option Nat → Prop where
  | absent : IsBound [] none
  | index {cs : List Char} {n : Nat} (h : IsIndex cs n) : IsBound cs (some n)

/-- What stands between the brackets of a filter: an asterisk, indexes with commas between them, or
two bounds with a colon between them. -/
inductive Written : List Char → Subset → Prop where
  | whole : Written ['*'] .whole
  | list {parts : List (List Char)} {indexes : List Nat} (hne : parts ≠ [])
    (h : List.Forall₂ IsIndex parts indexes) : Written (Text.join [','] parts) (.list indexes)
  | range {a b : List Char} {first last : Option Nat} (ha : IsBound a first) (hb : IsBound b last) :
    Written (a ++ ':' :: b) (.range first last)

theorem IsBound.not_mem {cs : List Char} {n : Option Nat} (h : IsBound cs n) {c : Char}
    (hc : c.isDigit = false) (hp : c ≠ '+') : c ∉ cs := by
  cases h with
  | absent => exact List.not_mem_nil
  | index h => exact h.not_mem hc hp

theorem not_mem_of_forall₂_isIndex {parts : List (List Char)} {indexes : List Nat}
    (h : List.Forall₂ IsIndex parts indexes) {c : Char} (hc : c.isDigit = false) (hp : c ≠ '+') :
    ∀ part ∈ parts, c ∉ part := by
  induction h with
  | nil => exact fun _ hm => absurd hm List.not_mem_nil
  | cons h _ ih => exact List.forall_mem_cons.2 ⟨h.not_mem hc hp, ih⟩

/-- A subset never holds the bracket that ends it. -/
theorem Written.not_mem_bracket {cs : List Char} {s : Subset} (h : Written cs s) : ']' ∉ cs := by
  cases h with
  | whole => decide
  | list hne h =>
    intro hm
    rcases Text.mem_join hm with hc | ⟨part, hpart, hc⟩
    · cases hc
    · exact not_mem_of_forall₂_isIndex h rfl (by decide) part hpart hc
  | range ha hb =>
    intro hm
    rcases List.mem_append.1 hm with hm | hm
    · exact ha.not_mem rfl (by decide) hm
    · exact (List.mem_cons.1 hm).elim (by decide) (hb.not_mem rfl (by decide))

theorem index?_eq_some_iff {cs : List Char} {n : Nat} : index? cs = some n ↔ IsIndex cs n :=
  Decimal.natural?_eq_some_iff

theorem bound?_eq_some_iff {cs : List Char} {n : Option Nat} :
    bound? cs = some n ↔ IsBound cs n := by
  unfold bound?
  split
  · next h =>
    subst h
    constructor
    · rintro ⟨⟩
      exact .absent
    · intro h
      cases h with
      | absent => rfl
      | index h => exact absurd rfl h.ne_nil
  · next hne =>
    rw [Option.map_eq_some_iff]
    constructor
    · rintro ⟨n, hn, rfl⟩
      exact .index (index?_eq_some_iff.1 hn)
    · intro h
      cases h with
      | absent => exact absurd rfl hne
      | index h => exact ⟨_, index?_eq_some_iff.2 h, rfl⟩

theorem mapM_index?_eq_some_iff {parts : List (List Char)} {indexes : List Nat} :
    parts.mapM index? = some indexes ↔ List.Forall₂ IsIndex parts indexes := by
  induction parts generalizing indexes with
  | nil => cases indexes <;> simp
  | cons part parts ih =>
    simp only [List.mapM_cons, Option.bind_eq_bind, Option.bind_eq_some_iff, Option.pure_def,
      Option.some.injEq, index?_eq_some_iff, ih, List.forall₂_cons_left_iff]
    constructor
    · rintro ⟨n, hn, ns, hns, rfl⟩
      exact ⟨n, ns, hn, hns, rfl⟩
    · rintro ⟨n, ns, hn, hns, rfl⟩
      exact ⟨n, hn, ns, hns, rfl⟩

/-- The subsets that are read are those that are written between brackets. -/
theorem read?_eq_some_iff {cs : List Char} {s : Subset} : read? cs = some s ↔ Written cs s := by
  constructor
  · intro h
    unfold read? at h
    split at h
    · next hc => cases h; subst hc; exact .whole
    split at h
    · next a b hcut =>
      obtain ⟨rfl, -⟩ := Text.cut_eq_some_iff.1 hcut
      simp only [Option.bind_eq_bind, Option.bind_eq_some_iff, Option.pure_def,
        Option.some.injEq, bound?_eq_some_iff] at h
      obtain ⟨first, ha, last, hb, rfl⟩ := h
      exact .range ha hb
    · obtain ⟨indexes, hi, rfl⟩ := Option.map_eq_some_iff.1 h
      rw [← Text.join_fields ',' cs]
      exact .list (Text.fields_ne_nil ',' cs) (mapM_index?_eq_some_iff.1 hi)
  · intro h
    cases h with
    | whole => rfl
    | @list parts indexes hne h =>
      have hcomma := not_mem_of_forall₂_isIndex h (c := ',') rfl (by decide)
      have hstar : Text.join [','] parts ≠ ['*'] := by
        intro he
        rcases Text.mem_join (he ▸ List.mem_singleton_self '*') with hc | ⟨part, hpart, hc⟩
        · cases hc
        · exact not_mem_of_forall₂_isIndex h rfl (by decide) part hpart hc
      have hcut : Text.cut ':' (Text.join [','] parts) = none := by
        rw [Text.cut_eq_none_iff]
        intro hm
        rcases Text.mem_join hm with hc | ⟨part, hpart, hc⟩
        · cases hc
        · exact not_mem_of_forall₂_isIndex h rfl (by decide) part hpart hc
      rw [read?, if_neg hstar, hcut]
      show Option.map _ ((Text.fields ',' _).mapM index?) = _
      rw [Text.fields_join hne hcomma, mapM_index?_eq_some_iff.2 h, Option.map_some]
    | @range a b first last ha hb =>
      have hstar : a ++ ':' :: b ≠ ['*'] := by
        intro he
        have hm : ':' ∈ ['*'] := he ▸ List.mem_append_right a List.mem_cons_self
        exact absurd hm (by decide)
      have hcut : Text.cut ':' (a ++ ':' :: b) = some (a, b) :=
        Text.cut_eq_some_iff.2 ⟨rfl, ha.not_mem rfl (by decide)⟩
      rw [read?, if_neg hstar, hcut]
      simp only [bound?_eq_some_iff.2 ha, bound?_eq_some_iff.2 hb, Option.bind_eq_bind,
        Option.bind_some, Option.pure_def]

end Subset

/-! ## Filters -/

namespace Filter

/-- How a filter is written: the name of a group alone, all nodes with `[*]`, or the name of a role
with a subset in brackets. -/
inductive Written : List Char → Filter → Prop where
  | group (g : Group) : Written g.word.toList { group := g, subset := .whole }
  | all : Written (Group.all.word.toList ++ '[' :: ['*'] ++ [']']) { group := .all, subset := .whole }
  | role (r : Role) {cs : List Char} {s : Subset} (h : Subset.Written cs s) :
    Written ((Group.role r).word.toList ++ '[' :: cs ++ [']']) { group := .role r, subset := s }

/-- A text has parts if it is a name alone, or a name with a bracketed text at its end. -/
theorem parts?_eq_some_iff {cs name : List Char} {brackets : Option (List Char)} :
    parts? cs = some (name, brackets) ↔
      (name ≠ [] ∧ ∀ c ∈ name, isGroupChar c) ∧
        (brackets = none ∧ cs = name ∨
          ∃ sub, brackets = some sub ∧ ']' ∉ sub ∧ cs = name ++ '[' :: sub ++ [']']) := by
  constructor
  · intro h
    have hcs := List.takeWhile_append_dropWhile (p := isGroupChar) (l := cs)
    have hname : ∀ c ∈ cs.takeWhile isGroupChar, isGroupChar c := fun c hc =>
      List.mem_takeWhile_imp hc
    simp only [parts?] at h
    generalize cs.takeWhile isGroupChar = taken at h hcs hname
    generalize cs.dropWhile isGroupChar = rest at h hcs
    split at h
    · cases h
    · next hne =>
      cases h
      exact ⟨⟨hne, hname⟩, .inl ⟨rfl, by rw [← hcs, List.append_nil]⟩⟩
    · next body hne =>
      split at h
      · next sub hcut =>
        cases h
        obtain ⟨rfl, hsub⟩ := Text.cut_eq_some_iff.1 hcut
        exact ⟨⟨hne, hname⟩, .inr ⟨sub, rfl, hsub, by rw [← hcs, List.append_assoc]; rfl⟩⟩
      · cases h
    · cases h
  · rintro ⟨⟨hne, hname⟩, ⟨rfl, rfl⟩ | ⟨sub, rfl, hsub, rfl⟩⟩
    · have ht : cs.takeWhile isGroupChar = cs := List.takeWhile_eq_self_iff.2 hname
      have hd : cs.dropWhile isGroupChar = [] := List.dropWhile_eq_nil_iff.2 hname
      unfold parts?
      rw [ht, hd]
      cases cs with
      | nil => exact absurd rfl hne
      | cons => rfl
    · have hbracket : ∀ c ∈ ('[' :: (sub ++ [']'])).head?, isGroupChar c = false := by
        rintro c ⟨⟩
        rfl
      obtain ⟨ht, hd⟩ := Text.span_append hname hbracket
      have hcut : Text.cut ']' (sub ++ [']']) = some (sub, []) :=
        Text.cut_eq_some_iff.2 ⟨rfl, hsub⟩
      unfold parts?
      rw [List.append_assoc, List.cons_append, ht, hd]
      cases name with
      | nil => exact absurd rfl hne
      | cons => simp only [hcut]

theorem subset?_eq_some_iff {g : Group} {cs : List Char} {s : Subset} :
    subset? g (some cs) = some s ↔ Subset.Written cs s ∧ (g = .all → s = .whole) := by
  simp only [subset?, Option.filter_eq_some_iff, Subset.read?_eq_some_iff, decide_eq_true_eq,
    ne_eq, imp_iff_not_or]

/-- The filters that are read are those that are written as filters. -/
theorem read_eq_ok_iff {text : String} {f : Filter} : read text = .ok f ↔ Written text.toList f := by
  constructor
  · intro h
    unfold read at h
    split at h
    · cases h
    · next name brackets hp =>
      split at h
      · cases h
      · next g hg =>
        split at h
        · cases h
        · next s hs =>
          cases h
          obtain rfl := Group.ofName?_eq_some_iff.1 hg
          obtain ⟨-, ⟨rfl, hcs⟩ | ⟨sub, rfl, -, hcs⟩⟩ := parts?_eq_some_iff.1 hp
          · cases hs
            rw [hcs]
            exact .group g
          · obtain ⟨hw, hall⟩ := subset?_eq_some_iff.1 hs
            rw [hcs]
            cases g with
            | role r => exact .role r hw
            | all =>
              obtain rfl := hall rfl
              cases hw
              exact .all
  · intro h
    have hread : ∀ (g : Group) (sub : List Char) (s : Subset), Subset.Written sub s →
        (g = .all → s = .whole) → text.toList = g.word.toList ++ '[' :: sub ++ [']'] →
        read text = .ok { group := g, subset := s } := by
      intro g sub s hw hall ht
      have hp : parts? text.toList = some (g.word.toList, some sub) :=
        parts?_eq_some_iff.2
          ⟨⟨g.word_ne_nil, g.isGroupChar_word⟩, .inr ⟨sub, rfl, hw.not_mem_bracket, ht⟩⟩
      simp only [read, hp, Group.ofName?_eq_some_iff.2 rfl, subset?_eq_some_iff.2 ⟨hw, hall⟩]
    generalize hcs : text.toList = cs at h
    cases h with
    | group g =>
      have hp : parts? text.toList = some (g.word.toList, none) :=
        parts?_eq_some_iff.2 ⟨⟨g.word_ne_nil, g.isGroupChar_word⟩, .inl ⟨rfl, hcs⟩⟩
      simp only [read, hp, Group.ofName?_eq_some_iff.2 rfl, subset?]
    | all => exact hread .all ['*'] .whole .whole (fun _ => rfl) hcs
    | role r hw => exact hread (.role r) _ _ hw nofun hcs

end Filter
end ClusterPlan
