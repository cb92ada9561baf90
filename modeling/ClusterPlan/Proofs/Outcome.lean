import ClusterPlan.Notice
import Mathlib.Data.List.Perm.Basic

/-!
# Outcomes

When a computation of several parts succeeds and when it fails: one part after the other
(`bind_eq_ok_iff`, `bind_eq_error_iff`), and one part for each element of a list (`mapM_eq_ok_iff`,
`mapM_eq_error_iff`). In whatever order the elements are taken, the same values are computed
(`exists_mapM_of_perm`).
-/

namespace ClusterPlan.Outcome

variable {ε α β : Type}

theorem bind_eq_ok_iff {x : Except ε α} {f : α → Except ε β} {b : β} :
    (x >>= f) = .ok b ↔ ∃ a, x = .ok a ∧ f a = .ok b := by
  cases x with
  | error => exact ⟨nofun, fun ⟨_, h, _⟩ => nomatch h⟩
  | ok a => exact ⟨fun h => ⟨a, rfl, h⟩, fun ⟨_, rfl, h⟩ => h⟩

theorem bind_eq_error_iff {x : Except ε α} {f : α → Except ε β} {e : ε} :
    (x >>= f) = .error e ↔ x = .error e ∨ ∃ a, x = .ok a ∧ f a = .error e := by
  cases x with
  | error e' =>
    refine ⟨fun h => .inl (congrArg _ (Except.error.inj h)), fun h => ?_⟩
    have herr : Except.error e' = Except.error e := h.resolve_right fun ⟨_, hok, _⟩ => nomatch hok
    exact congrArg _ (Except.error.inj herr)
  | ok a =>
    refine ⟨fun h => .inr ⟨a, rfl, h⟩, fun h => ?_⟩
    obtain ⟨_, ⟨⟩, hf⟩ := h.resolve_left nofun
    exact hf

theorem map_eq_ok_iff {x : Except ε α} {f : α → β} {b : β} :
    x.map f = .ok b ↔ ∃ a, x = .ok a ∧ f a = b := by
  cases x with
  | error => exact ⟨nofun, fun ⟨_, h, _⟩ => nomatch h⟩
  | ok a => exact ⟨fun h => ⟨a, rfl, Except.ok.inj h⟩, fun ⟨_, rfl, h⟩ => congrArg _ h⟩

theorem elim_bind_eq_ok_iff {x : Option α} {e : ε} {f : α → Except ε β} {b : β} :
    x.elim (.error e) f = .ok b ↔ ∃ a, x = some a ∧ f a = .ok b := by
  cases x with
  | none => exact ⟨nofun, fun ⟨_, h, _⟩ => nomatch h⟩
  | some a => exact ⟨fun h => ⟨a, rfl, h⟩, fun ⟨_, rfl, h⟩ => h⟩

theorem elim_eq_ok_iff {x : Option α} {e : ε} {a : α} :
    x.elim (Except.error e) Except.ok = .ok a ↔ x = some a := by
  rw [elim_bind_eq_ok_iff]
  exact ⟨fun ⟨_, hx, ha⟩ => Except.ok.inj ha ▸ hx, fun hx => ⟨a, hx, rfl⟩⟩

theorem exists_eq_ok_iff {x : Except ε α} : (∃ a, x = .ok a) ↔ ∀ e, x ≠ .error e := by
  cases x with
  | error e => exact ⟨nofun, fun h => absurd rfl (h e)⟩
  | ok a => exact ⟨fun _ => nofun, fun _ => ⟨a, rfl⟩⟩

theorem map_eq_error_iff {x : Except ε α} {f : α → β} {e : ε} :
    x.map f = .error e ↔ x = .error e := by
  cases x with
  | error =>
    exact ⟨fun h => congrArg _ (Except.error.inj h), fun h => congrArg _ (Except.error.inj h)⟩
  | ok => exact ⟨nofun, nofun⟩

/-- Another kind of failure makes no difference to success. -/
theorem mapError_eq_ok_iff {δ : Type} {f : ε → δ} {r : Except ε α} {a : α} :
    r.mapError f = .ok a ↔ r = .ok a := by
  cases r with
  | error => exact ⟨nofun, nofun⟩
  | ok => exact ⟨fun h => by cases h; rfl, fun h => by cases h; rfl⟩

theorem mapError_eq_error_iff {δ : Type} {f : ε → δ} {r : Except ε α} {d : δ} :
    r.mapError f = .error d ↔ ∃ e, r = .error e ∧ f e = d := by
  cases r with
  | error e => exact ⟨fun h => ⟨e, rfl, Except.error.inj h⟩, fun ⟨_, rfl, h⟩ => congrArg _ h⟩
  | ok => exact ⟨nofun, fun ⟨_, h, _⟩ => nomatch h⟩

theorem mapError_bind {δ : Type} {g : ε → δ} {x : Except ε α} {f : α → Except ε β} :
    (x >>= f).mapError g = (x.mapError g).bind fun a => (f a).mapError g := by
  cases x <;> rfl

theorem map_bind {γ : Type} {g : β → γ} {x : Except ε α} {f : α → Except ε β} :
    (x >>= f).map g = x.bind fun a => (f a).map g := by
  cases x <;> rfl

/-- Computations that fail alike go on alike, if they do so from values that belong together. -/
theorem bind_eq_bind_of_map_eq {γ δ : Type} {x : Except ε α} {y : Except ε β} {f : α → γ} {g : β → γ}
    (h : x.map f = y.map g) {k : α → Except ε δ} {l : β → Except ε δ}
    (hkl : ∀ a b, f a = g b → k a = l b) : x.bind k = y.bind l := by
  cases x with
  | error e =>
    cases y with
    | error e' => exact congrArg Except.error (Except.error.inj h)
    | ok => cases h
  | ok a =>
    cases y with
    | error => cases h
    | ok b => exact hkl a b (Except.ok.inj h)

/-- A computation that has a value of which something is known. -/
theorem exists_of_toOption_map {x : Except ε α} {f : α → β} {b : β}
    (h : x.toOption.map f = some b) : ∃ a, x = .ok a ∧ f a = b := by
  cases x with
  | error => cases h
  | ok a => exact ⟨a, rfl, Option.some.inj h⟩

/-- What is known of the value of a computation or of its error is known of the value that it has and of
the error that it has. -/
theorem of_cases {x : Except ε α} {P : α → Prop} {Q : ε → Prop}
    (h : (∃ a, P a ∧ x = .ok a) ∨ ∃ e, Q e ∧ x = .error e) :
    (∀ {a}, x = .ok a → P a) ∧ ∀ {e}, x = .error e → Q e := by
  obtain ⟨a, ha, rfl⟩ | ⟨e, he, rfl⟩ := h
  · refine ⟨fun hx => ?_, nofun⟩
    cases hx
    exact ha
  · refine ⟨nofun, fun hx => ?_⟩
    cases hx
    exact he

/-- A list of parts succeeds if each of them does, with the values of the parts in their order. -/
theorem mapM_eq_ok_iff {f : α → Except ε β} {as : List α} {bs : List β} :
    as.mapM f = .ok bs ↔ List.Forall₂ (fun a b => f a = .ok b) as bs := by
  induction as generalizing bs with
  | nil =>
    rw [List.mapM_nil, List.forall₂_nil_left_iff]
    exact ⟨fun h => (Except.ok.inj h).symm, fun h => congrArg _ h.symm⟩
  | cons a as ih =>
    simp only [List.mapM_cons, bind_eq_ok_iff, ih, List.forall₂_cons_left_iff]
    constructor
    · rintro ⟨b, hb, bs', hbs, h⟩
      exact ⟨b, bs', hb, hbs, (Except.ok.inj h).symm⟩
    · rintro ⟨b, bs', hb, hbs, rfl⟩
      exact ⟨b, hb, bs', hbs, rfl⟩

/-- A list of parts succeeds if each of them does. -/
theorem exists_mapM_iff {f : α → Except ε β} {as : List α} :
    (∃ bs, as.mapM f = .ok bs) ↔ ∀ a ∈ as, ∃ b, f a = .ok b := by
  simp only [mapM_eq_ok_iff]
  induction as with
  | nil => simp
  | cons a as ih =>
    simp only [List.forall_mem_cons, ← ih, List.forall₂_cons_left_iff]
    constructor
    · rintro ⟨_, b, bs, hb, hbs, rfl⟩
      exact ⟨⟨b, hb⟩, bs, hbs⟩
    · rintro ⟨⟨b, hb⟩, bs, hbs⟩
      exact ⟨_, b, bs, hb, hbs, rfl⟩

/-- A list of parts fails as the first part does that fails. -/
theorem mapM_eq_error_iff {f : α → Except ε β} {as : List α} {e : ε} :
    as.mapM f = .error e ↔ ∃ before a after, as = before ++ a :: after ∧
      (∀ b ∈ before, ∃ v, f b = .ok v) ∧ f a = .error e := by
  induction as with
  | nil => simp [pure, Except.pure]
  | cons a as ih =>
    simp only [List.mapM_cons, bind_eq_error_iff, ih]
    constructor
    · rintro (he | ⟨b, hb, ⟨before, c, after, rfl, hbefore, he⟩ | ⟨bs, -, hbs⟩⟩)
      · exact ⟨[], a, as, rfl, by simp, he⟩
      · exact ⟨a :: before, c, after, rfl, List.forall_mem_cons.2 ⟨⟨b, hb⟩, hbefore⟩, he⟩
      · cases hbs
    · rintro ⟨before, c, after, heq, hbefore, he⟩
      cases before with
      | nil =>
        cases heq
        exact .inl he
      | cons b before =>
        cases heq
        obtain ⟨⟨v, hv⟩, hbefore⟩ := List.forall_mem_cons.1 hbefore
        exact .inr ⟨v, hv, .inl ⟨before, c, after, rfl, hbefore, he⟩⟩

/-- Parts that have a value exactly if they are made from it are a list made from their values. -/
theorem mapM_eq_some_iff_of_inverse {f : α → Option β} {g : β → α} (h : ∀ a b, f a = some b ↔ a = g b)
    {as : List α} {bs : List β} : as.mapM f = some bs ↔ as = bs.map g := by
  induction as generalizing bs with
  | nil =>
    rw [List.mapM_nil, eq_comm (a := ([] : List α)), List.map_eq_nil_iff]
    exact ⟨fun hb => (Option.some.inj hb).symm, fun hb => congrArg some hb.symm⟩
  | cons a as ih =>
    simp only [List.mapM_cons, Option.bind_eq_bind, Option.bind_eq_some_iff, h, ih]
    constructor
    · rintro ⟨b, rfl, bs, rfl, ⟨⟩⟩
      rfl
    · intro he
      cases bs with
      | nil => cases he
      | cons b bs =>
        cases he
        exact ⟨b, rfl, bs, rfl, rfl⟩

/-- Each element of a list that corresponds to another corresponds to something. -/
theorem exists_of_forall₂ {R : α → β → Prop} {as : List α} {bs : List β} (h : List.Forall₂ R as bs)
    {a : α} (ha : a ∈ as) : ∃ b, R a b := by
  induction h with
  | nil => cases ha
  | cons h _ ih =>
    rcases List.mem_cons.1 ha with rfl | ha
    · exact ⟨_, h⟩
    · exact ih ha

/-- What holds of the value of each part holds of all values. -/
theorem forall_of_mapM {f : α → Except ε β} {P : β → Prop} (hp : ∀ a b, f a = .ok b → P b)
    {as : List α} {bs : List β} (h : as.mapM f = .ok bs) : ∀ b ∈ bs, P b := by
  intro b hb
  obtain ⟨i, hi, rfl⟩ := List.getElem_of_mem hb
  have hall := mapM_eq_ok_iff.1 h
  have hlen : i < as.length := hall.length_eq ▸ hi
  exact hp as[i] bs[i] (hall.get hlen hi)

/-- The order of the parts makes no difference to their success nor to their values. -/
theorem exists_mapM_of_perm {f : α → Except ε β} {as as' : List α} {bs : List β}
    (hp : as'.Perm as) (h : as.mapM f = .ok bs) : ∃ bs', as'.mapM f = .ok bs' ∧ bs'.Perm bs := by
  obtain ⟨bs', hbs, hperm⟩ := List.perm_comp_forall₂ hp (mapM_eq_ok_iff.1 h)
  exact ⟨bs', mapM_eq_ok_iff.2 hbs, hperm⟩

end ClusterPlan.Outcome
