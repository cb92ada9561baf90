import ClusterPlan.Proofs.Duration.Term

/-!
# Durations as sums of terms

A text is read as a number of seconds or as terms, and in no other way (`Duration.readsAsWritten`). Terms are
read if each is by itself and if the sum is no more than a duration can be, and then as that sum
(`Duration.read_eq_ok_iff_of_areTerms`), which does not depend on their order. The scanner may stop before a
term that is not next: what it complains of then is a slice of the text (`Duration.exists_isGap`).
-/

namespace ClusterPlan

namespace DurationTerm

variable {cs gap rest : List Char} {t : DurationTerm}

/-- What is found after a gap is taken where the gap ends. -/
theorem exists_take?_of_find? (h : find? cs = some (gap, t, rest)) :
    ∃ after, cs = gap ++ after ∧ take? after = some (t, rest) := by
  induction cs generalizing gap with
  | nil => cases h
  | cons c cs ih =>
    rw [find?] at h
    split at h
    · next htake =>
      cases h
      exact ⟨c :: cs, rfl, htake⟩
    · obtain ⟨⟨gap', t', rest'⟩, hfind, hgap⟩ := Option.map_eq_some_iff.1 h
      cases hgap
      obtain ⟨after, rfl, htake⟩ := ih hfind
      exact ⟨after, rfl, htake⟩

theorem duration_ne_unexpected {text gap : String} : t.duration text ≠ .error (.unexpected gap) := by
  intro h
  unfold duration at h
  split at h
  · cases h
  · dsimp only at h
    split at h
    · cases hd : Duration.ofNanoseconds? _ <;> rw [hd] at h <;> cases h
    · cases h

end DurationTerm

namespace Duration

variable {cs rest : List Char} {terms : List (List Char)} {t : DurationTerm} {text : String}
  {total d : Duration}

/-! ## Runs over terms -/

/-- The durations that texts have, each read by itself. -/
def ReadAlone (terms : List (List Char)) (ds : List Duration) : Prop :=
  List.Forall₂ (fun cs d => read (String.ofList cs) = .ok d) terms ds

/-- The nanoseconds of durations together. -/
def sum (ds : List Duration) : Nat :=
  ds.foldr (fun d n => d.nanoseconds + n) 0

theorem sum_cons (d : Duration) (ds : List Duration) : sum (d :: ds) = d.nanoseconds + sum ds := rfl

/-- One term is read as it is by itself, and added. -/
theorem readTerms_append_eq_ok_iff (h : IsTerm cs) (hrest : rest.head? ≠ some 's') :
    readTerms text total (cs ++ rest) = .ok d ↔ ∃ d₁ next, read (String.ofList cs) = .ok d₁ ∧
      next.nanoseconds = total.nanoseconds + d₁.nanoseconds ∧ readTerms text next rest = .ok d := by
  obtain ⟨t, ht⟩ := h
  have htake := DurationTerm.take?_append (ht.imp fun _ => Text.isDecimalDigit_of_isDigit) hrest
  have htrim : Text.trim (String.ofList cs).toList = cs := by rw [String.toList_ofList, ht.trim]
  rw [readTerms_of_take? htake, read_of_written ht htrim]
  simp only [Outcome.bind_eq_ok_iff, Outcome.elim_bind_eq_ok_iff, add?, ofNanoseconds?_eq_some_iff,
    DurationTerm.duration_eq_ok_iff]
  constructor
  · rintro ⟨d₁, hd, next, hnext, hd'⟩
    exact ⟨d₁, next, hd, hnext, hd'⟩
  · rintro ⟨d₁, next, hd, hnext, hd'⟩
    exact ⟨d₁, hd, next, hnext, hd'⟩

theorem head?_flatten_ne (h : ∀ cs ∈ terms, IsTerm cs) : terms.flatten.head? ≠ some 's' := by
  by_cases hnil : terms = []
  · subst hnil
    nofun
  · obtain ⟨c, cs, hcons, hc⟩ := exists_flatten_eq_cons hnil h
    rw [hcons]
    rintro ⟨⟩
    cases hc

/-- Terms are read if each is by itself and their sum is no more than a duration can be. -/
theorem readTerms_flatten_eq_ok_iff (h : ∀ cs ∈ terms, IsTerm cs) :
    readTerms text total terms.flatten = .ok d ↔
      ∃ ds, ReadAlone terms ds ∧ d.nanoseconds = total.nanoseconds + sum ds := by
  induction terms generalizing total with
  | nil =>
    rw [List.flatten_nil, readTerms_nil]
    constructor
    · rintro ⟨⟩
      exact ⟨[], .nil, rfl⟩
    · rintro ⟨ds, hds, hd⟩
      obtain rfl := List.forall₂_nil_left_iff.1 hds
      exact congrArg _ (nanoseconds_inj hd).symm
  | cons cs terms ih =>
    obtain ⟨hcs, hterms⟩ := List.forall_mem_cons.1 h
    rw [List.flatten_cons, readTerms_append_eq_ok_iff hcs (head?_flatten_ne hterms)]
    constructor
    · rintro ⟨d₁, next, hd₁, hnext, hd⟩
      obtain ⟨ds, hds, hsum⟩ := (ih hterms).1 hd
      refine ⟨d₁ :: ds, .cons hd₁ hds, ?_⟩
      rw [hsum, hnext, sum_cons, Nat.add_assoc]
    · rintro ⟨ds, hall, hsum⟩
      obtain ⟨d₁, ds, hd₁, hds, rfl⟩ := List.forall₂_cons_left_iff.1 hall
      rw [sum_cons] at hsum
      -- No sum on the way is longer than the whole, which is a duration.
      have hlt := d.lt_limit
      refine ⟨d₁, ⟨total.nanoseconds + d₁.nanoseconds, by omega⟩, hd₁, rfl, ?_⟩
      refine (ih hterms).2 ⟨ds, hds, ?_⟩
      show _ = total.nanoseconds + d₁.nanoseconds + sum ds
      omega

/-- A term that has a duration is written in ASCII digits. -/
theorem exists_isTerm_of_take? (htake : DurationTerm.take? cs = some (t, rest)) (hd : t.duration text = .ok d) :
    ∃ term, IsTerm term ∧ cs = term ++ rest := by
  obtain ⟨term, ht, hcs⟩ := DurationTerm.exists_written_of_take? htake
  have hdigit := (DurationTerm.duration_eq_ok_iff.1 hd).1
  refine ⟨term, ⟨t, ht.whole_ne_nil, fun c hc => ?_, fun c hc => ?_, ht.text⟩, hcs⟩
  · exact hdigit c (List.mem_append_left _ hc)
  · exact hdigit c (List.mem_append_right _ hc)

/-- Where a run over terms stops: at the end if it succeeds, and before a gap with a term after it if it
complains of the gap. -/
structure StopsBefore (rest : List Char) (result : Except DurationError Duration) : Prop where
  ok : ∀ d, result = .ok d → rest = []
  unexpected : ∀ gap, result = .error (.unexpected gap) →
    gap.toList ≠ [] ∧ ∃ t after, DurationTerm.find? rest = some (gap.toList, t, after)

/-- Whatever the result, what was read before the run stops are terms. -/
theorem exists_stopsBefore (text : String) (total : Duration) (cs : List Char) :
    ∃ (terms : List (List Char)) (rest : List Char), (∀ cs ∈ terms, IsTerm cs) ∧
      cs = terms.flatten ++ rest ∧ StopsBefore rest (readTerms text total cs) := by
  fun_induction readTerms text total cs with
  | case1 total hfind => exact ⟨[], [], nofun, rfl, fun _ _ => rfl, nofun⟩
  | case2 total cs hfind hcs => exact ⟨[], cs, nofun, rfl, nofun, nofun⟩
  | case3 total cs gap t rest hfind hgap =>
    refine ⟨[], cs, nofun, rfl, nofun, fun gap' h => ?_⟩
    obtain rfl : String.ofList gap = gap' := by cases h; rfl
    rw [String.toList_ofList]
    exact ⟨hgap, t, rest, hfind⟩
  | case4 total cs gap t rest hfind hgap e hd =>
    refine ⟨[], cs, nofun, rfl, nofun, fun gap' h => ?_⟩
    cases h
    exact absurd hd DurationTerm.duration_ne_unexpected
  | case5 total cs gap t rest hfind hgap d hd hsum => exact ⟨[], cs, nofun, rfl, nofun, nofun⟩
  | case6 total cs gap t rest hfind hgap d hd next hsum ih =>
    obtain rfl : gap = [] := not_not.1 hgap
    obtain ⟨after, rfl, htake⟩ := DurationTerm.exists_take?_of_find? hfind
    obtain ⟨term, hterm, rfl⟩ := exists_isTerm_of_take? htake hd
    obtain ⟨terms, rest', hterms, rfl, hstops⟩ := ih
    refine ⟨term :: terms, rest', List.forall_mem_cons.2 ⟨hterm, hterms⟩, ?_, hstops⟩
    rw [List.flatten_cons, List.append_assoc]

/-! ## Gaps -/

/-- A gap of a text, from where the terms before it end to where the next one starts. -/
structure IsGap (s gap : String) (start stop : s.Pos) : Prop where
  lt : start < stop
  slice : (s.slice start stop (String.Pos.le_of_lt lt)).copy = gap
  terms : ∃ (terms : List (List Char)) (after : String), (∀ cs ∈ terms, IsTerm cs) ∧
    start.Splits (String.ofList terms.flatten) after
  next : ∃ (before : String) (after : List Char), stop.Splits before (String.ofList after) ∧
    (DurationTerm.take? after).isSome

/-- What a run over the whole of a text complains of is a gap of the text. -/
theorem exists_isGap {gap : String} (h : readTerms text total cs = .error (.unexpected gap)) :
    ∃ start stop, IsGap (String.ofList cs) gap start stop := by
  obtain ⟨terms, rest, hterms, hcs, hstops⟩ := exists_stopsBefore text total cs
  obtain ⟨hne, t, after, hfind⟩ := hstops.unexpected gap h
  obtain ⟨next, hrest, htake⟩ := DurationTerm.exists_take?_of_find? hfind
  have hsplit : String.ofList cs = String.ofList terms.flatten ++ (gap ++ String.ofList next) := by
    rw [hcs, hrest, String.ofList_append, String.ofList_append, String.ofList_toList]
  have hsplit' : String.ofList cs = String.ofList terms.flatten ++ gap ++ String.ofList next := by
    rw [hsplit, String.append_assoc]
  have hstart := String.Pos.splits_ofEqAppend hsplit
  have hstop := String.Pos.splits_ofEqAppend hsplit'
  have hlt : String.Pos.ofEqAppend hsplit < String.Pos.ofEqAppend hsplit' := by
    refine (hstart.lt_iff_exists_eq_append hstop).2 ⟨gap, fun hgap => hne ?_, rfl, rfl⟩
    rw [hgap, String.toList_empty]
  refine ⟨_, _, hlt, ?_, ⟨terms, _, hterms, hstart⟩, ⟨_, next, hstop, by rw [htake]; rfl⟩⟩
  obtain ⟨_, hslice⟩ := String.copy_slice_eq_iff_splits.2 ⟨_, _, hstart, hstop⟩
  exact hslice

/-! ## Texts -/

theorem read_of_isNatural {n : Nat} (h : Decimal.IsNatural Decimal.wordLimit (Text.trim text.toList) n) :
    ∃ d, read text = .ok d ∧ d.nanoseconds = n * perSecond := by
  have hnat := Decimal.natural?_eq_some_iff.2 h
  have hlt : n * perSecond < UInt64.size * 1_000_000_000 := by
    have hn := h.lt
    rw [Decimal.wordLimit_eq] at hn
    rw [perSecond, UInt64.size]
    omega
  obtain ⟨d, hd⟩ : ∃ d : Duration, d.nanoseconds = n * perSecond := ⟨⟨_, hlt⟩, rfl⟩
  have hbind : (Decimal.natural? Decimal.wordLimit (Text.trim text.toList)).bind
      (ofNanoseconds? <| · * perSecond) = some d := by
    rw [hnat, Option.bind_some, ofNanoseconds?_eq_some_iff.2 hd]
  refine ⟨d, ?_, hd⟩
  unfold read
  simp only [if_neg h.ne_nil, hbind]

/-- Terms are read as the sum of what each is read as by itself. -/
theorem read_eq_ok_iff_of_areTerms (h : AreTerms terms) (htrim : Text.trim text.toList = terms.flatten) :
    read text = .ok d ↔ ∃ ds, ReadAlone terms ds ∧ d.nanoseconds = sum ds := by
  rw [read_flatten h htrim, readTerms_flatten_eq_ok_iff h.isTerm]
  simp only [zero, Nat.zero_add]

theorem ReadAlone.perm {terms' : List (List Char)} {ds : List Duration} (hp : terms'.Perm terms)
    (h : ReadAlone terms ds) : ∃ ds', ReadAlone terms' ds' ∧ sum ds' = sum ds := by
  obtain ⟨ds', hds, hperm⟩ := List.perm_comp_forall₂ hp h
  have hcomm : LeftCommutative fun (d : Duration) n => d.nanoseconds + n :=
    ⟨fun _ _ _ => Nat.add_left_comm _ _ _⟩
  exact ⟨ds', hds, hperm.foldr_eq 0⟩

theorem AreTerms.perm {terms' : List (List Char)} (hp : terms'.Perm terms) (h : AreTerms terms) :
    AreTerms terms' :=
  ⟨fun hnil => h.ne_nil (List.nil_perm.1 (hnil ▸ hp)), fun cs hcs => h.isTerm cs (hp.mem_iff.1 hcs)⟩

/-- A text that is read as no number of seconds and not as terms is not read. -/
theorem exists_areTerms_of_read (hd : read text = .ok d)
    (hnat : ∀ n, ¬ Decimal.IsNatural Decimal.wordLimit (Text.trim text.toList) n) :
    ∃ terms, AreTerms terms ∧ Text.trim text.toList = terms.flatten := by
  have hnone : Decimal.natural? Decimal.wordLimit (Text.trim text.toList) = none :=
    Option.eq_none_iff_forall_ne_some.2 fun n hn => hnat n (Decimal.natural?_eq_some_iff.1 hn)
  unfold read at hd
  simp only [hnone, Option.bind_none] at hd
  split at hd
  · cases hd
  · next hne =>
    obtain ⟨terms, rest, hterms, hcs, hstops⟩ := exists_stopsBefore _ zero (Text.trim text.toList)
    obtain rfl := hstops.ok d hd
    rw [List.append_nil] at hcs
    refine ⟨terms, ⟨?_, hterms⟩, hcs⟩
    rintro rfl
    exact hne hcs

/-- What a text is read as: `cs` is what is left of it without the blanks at its ends. -/
structure ReadsAsWritten (text : String) (cs : List Char) : Prop where
  /-- A bare number is one of seconds. -/
  seconds : ∀ n, Decimal.IsNatural Decimal.wordLimit cs n →
    ∃ d, read text = .ok d ∧ d.nanoseconds = n * perSecond
  /-- A term by itself is read if its nanoseconds fit a word. -/
  term : ∀ t, DurationTerm.Written Char.isDigit cs t → ∀ d,
    read text = .ok d ↔ t.nanoseconds < Decimal.wordLimit ∧ d.nanoseconds = t.nanoseconds
  /-- Terms are read as the sum of what each is read as by itself. -/
  terms : ∀ terms, AreTerms terms → cs = terms.flatten → ∀ d,
    read text = .ok d ↔ ∃ ds, ReadAlone terms ds ∧ d.nanoseconds = sum ds
  /-- Terms are read if each is by itself, and if the sum is no more than a duration can be. -/
  accepted : ∀ terms, AreTerms terms → cs = terms.flatten →
    ((∃ d, read text = .ok d) ↔ ∃ ds, ReadAlone terms ds ∧ sum ds < UInt64.size * perSecond)
  /-- The order of terms makes no difference. -/
  perm : ∀ terms terms' : List (List Char), AreTerms terms → cs = terms.flatten → terms'.Perm terms → ∀ d,
    read (String.ofList terms'.flatten) = .ok d ↔ read text = .ok d
  /-- Nothing else is read. -/
  rejected : (∀ n, ¬ Decimal.IsNatural Decimal.wordLimit cs n) →
    (∀ terms, AreTerms terms → cs ≠ terms.flatten) → ∃ e, read text = .error e
  /-- What is complained of as unexpected is a slice of the text. -/
  gap : ∀ gap, read text = .error (.unexpected gap) → ∃ start stop, IsGap (String.ofList cs) gap start stop

/-- Every text is read as it is written, or not at all. -/
theorem readsAsWritten (text : String) : ReadsAsWritten text (Text.trim text.toList) where
  seconds _ h := read_of_isNatural h
  term t ht d := by
    rw [read_of_written ht rfl, DurationTerm.duration_eq_ok_iff, and_iff_right ht.isDigit]
  terms _ h htrim d := read_eq_ok_iff_of_areTerms h htrim
  accepted terms h htrim := by
    simp only [read_eq_ok_iff_of_areTerms h htrim]
    constructor
    · rintro ⟨d, ds, hds, hd⟩
      exact ⟨ds, hds, hd ▸ d.lt_limit⟩
    · rintro ⟨ds, hds, hlt⟩
      exact ⟨⟨sum ds, hlt⟩, ds, hds, rfl⟩
  perm terms terms' h htrim hp d := by
    have htrim' : Text.trim (String.ofList terms'.flatten).toList = terms'.flatten := by
      rw [String.toList_ofList, (h.perm hp).trim]
    rw [read_eq_ok_iff_of_areTerms h htrim, read_eq_ok_iff_of_areTerms (h.perm hp) htrim']
    constructor
    · rintro ⟨ds, hds, hd⟩
      obtain ⟨ds', hds', hsum⟩ := hds.perm hp.symm
      exact ⟨ds', hds', hsum ▸ hd⟩
    · rintro ⟨ds, hds, hd⟩
      obtain ⟨ds', hds', hsum⟩ := hds.perm hp
      exact ⟨ds', hds', hsum ▸ hd⟩
  rejected hnat hterms := by
    cases hd : read text with
    | error e => exact ⟨e, rfl⟩
    | ok d =>
      obtain ⟨terms, h, htrim⟩ := exists_areTerms_of_read hd hnat
      exact absurd htrim (hterms terms h)
  gap gap h := by
    unfold read at h
    dsimp only at h
    split at h
    · cases h
    · split at h
      · cases h
      · exact exists_isGap h

/-- Terms of several units, in no order, between blanks. -/
example : (read " 1.5s1h500ms30m ").map nanoseconds = .ok 5402000000000 := by
  decide +kernel

end Duration
end ClusterPlan
