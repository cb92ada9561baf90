import ClusterPlan.Proofs.Duration.Exact
import ClusterPlan.Proofs.Duration.Sum

/-!
# Small durations

The number of a term need not be one of 53 bits, as that of `1.1s` is not. Then it is rounded before and after
it is multiplied by its unit, and once more to a whole number of nanoseconds. If the term denotes such a number,
and one below a sixth of `2 ^ 53`, the errors of the first two roundings do not survive the third
(`DurationTerm.nanoseconds_of_exact`). So terms that denote whole numbers of nanoseconds, each of them of thirteen
days at most, are read as their exact sum (`Duration.sumsExactly_of_areSmall`).
-/

namespace ClusterPlan

namespace DurationTerm

/-- The number of nanoseconds that a term denotes, with nothing rounded. -/
def exact (t : DurationTerm) : ℚ :=
  t.value.toRat * t.unit.nanoseconds

/-- Whether a term denotes a whole number, in whole numbers. -/
theorem exact_eq_iff {t : DurationTerm} {n : Nat} : t.exact = n ↔
    Decimal.value (t.whole ++ t.fraction) * t.unit.nanoseconds = n * 10 ^ t.fraction.length := by
  have hden : (t.value.den : ℚ) ≠ 0 := Nat.cast_ne_zero.2 (Nat.pow_pos (by decide)).ne'
  rw [exact, Ratio.toRat, div_mul_eq_mul_div, div_eq_iff hden]
  exact_mod_cast Iff.rfl

/-- Rounding does not change a whole number of nanoseconds below a sixth of `2 ^ 53`. -/
theorem nanoseconds_of_exact {t : DurationTerm} {n : Nat} (h : t.exact = n) (hn : 6 * n < 2 ^ 53) :
    t.nanoseconds = n := by
  have hden : 0 < t.value.den := Nat.pow_pos (by decide)
  have hround := abs_toNanoseconds_sub_le hden t.unit
  rw [show t.value.toRat * t.unit.nanoseconds = n from h] at hround
  have hpart : 3 * (n : ℚ) / 2 ^ 53 < 1 / 2 := by
    have hsmall : (6 * n : ℚ) < 2 ^ 53 := by exact_mod_cast hn
    rw [div_lt_iff₀ (by positivity)]
    linarith
  have hlt : |(t.nanoseconds : ℚ) - n| < (0 : Nat) + 1 := by
    refine lt_of_le_of_lt hround ?_
    push_cast
    linarith
  have hnear := Ratio.nat_near_of_abs_sub_lt hlt
  omega

end DurationTerm

namespace Duration

variable {cs rest : List Char} {terms : List (List Char)} {ns : List Nat} {text : String} {total : Duration}
  {n : Nat}

/-- A text that is written as a term and denotes a whole number of nanoseconds, of at most thirteen days. -/
def IsSmallTerm (cs : List Char) (n : Nat) : Prop :=
  ∃ t, DurationTerm.Written Char.isDigit cs t ∧ t.exact = n ∧ n ≤ 2 ^ 50

/-- Texts of small terms, one at least. -/
structure AreSmall (terms : List (List Char)) (ns : List Nat) : Prop where
  ne_nil : terms ≠ []
  isSmall : List.Forall₂ IsSmallTerm terms ns

theorem IsSmallTerm.isTerm (h : IsSmallTerm cs n) : IsTerm cs :=
  h.imp fun _ ht => ht.1

theorem isTerm_of_forall₂ (h : List.Forall₂ IsSmallTerm terms ns) : ∀ cs ∈ terms, IsTerm cs := by
  intro cs hcs
  obtain ⟨n, hn⟩ := Outcome.exists_of_forall₂ h hcs
  exact hn.isTerm

theorem AreSmall.areTerms (h : AreSmall terms ns) : AreTerms terms :=
  ⟨h.ne_nil, isTerm_of_forall₂ h.isSmall⟩

/-- A small term has the duration that it denotes. -/
theorem IsSmallTerm.exists_take? (h : IsSmallTerm cs n) (hrest : rest.head? ≠ some 's') (text : String) :
    ∃ t d, DurationTerm.take? (cs ++ rest) = some (t, rest) ∧ t.duration text = .ok d ∧ d.nanoseconds = n := by
  obtain ⟨t, ht, hexact, hn⟩ := h
  have hround : t.nanoseconds = n := DurationTerm.nanoseconds_of_exact hexact (by omega)
  have hlt : n < Decimal.wordLimit := by
    rw [Decimal.wordLimit_eq]
    omega
  obtain ⟨d, -, hd⟩ := ofNanoseconds?_of_lt hlt
  refine ⟨t, d, DurationTerm.take?_append (ht.imp fun _ => Text.isDecimalDigit_of_isDigit) hrest, ?_, hd⟩
  rw [DurationTerm.duration_eq_ok_iff, hround]
  exact ⟨ht.isDigit, hlt, hd⟩

theorem ofNanoseconds?_eq_none_iff : ofNanoseconds? n = none ↔ UInt64.size * perSecond ≤ n := by
  rw [← Nat.not_lt]
  constructor
  · intro h hn
    have hsome : ofNanoseconds? n = some ⟨n, hn⟩ := ofNanoseconds?_eq_some_iff.2 rfl
    rw [h] at hsome
    cases hsome
  · intro hn
    exact Option.eq_none_iff_forall_ne_some.2 fun d hd => hn (ofNanoseconds?_eq_some_iff.1 hd ▸ d.lt_limit)

/-- Small terms are added up exactly, as far as a duration goes. -/
theorem readTerms_flatten_of_small (h : List.Forall₂ IsSmallTerm terms ns) :
    readTerms text total terms.flatten =
      (ofNanoseconds? (total.nanoseconds + ns.sum)).elim (.error (.outOfRange text)) .ok := by
  induction h generalizing total with
  | nil =>
    have htotal : ofNanoseconds? total.nanoseconds = some total := ofNanoseconds?_eq_some_iff.2 rfl
    rw [List.flatten_nil, readTerms_nil, List.sum_nil, Nat.add_zero, htotal]
    rfl
  | @cons cs n terms ns hcs hterms ih =>
    obtain ⟨t, d, htake, hd, rfl⟩ :=
      hcs.exists_take? (head?_flatten_ne (isTerm_of_forall₂ hterms)) text
    rw [List.flatten_cons, readTerms_of_take? htake, hd, List.sum_cons, ← Nat.add_assoc]
    show (total.add? d).elim _ _ = _
    cases hnext : total.add? d with
    | none =>
      -- What is too long already does not get shorter by the terms that follow.
      have hle : UInt64.size * perSecond ≤ total.nanoseconds + d.nanoseconds :=
        ofNanoseconds?_eq_none_iff.1 hnext
      rw [ofNanoseconds?_eq_none_iff.2 (Nat.le_add_right_of_le hle)]
      rfl
    | some next =>
      rw [← ofNanoseconds?_eq_some_iff.1 hnext]
      exact ih

/-- Small terms one after the other are read as exactly the sum of what they denote, unless that is more than a
duration can be. -/
theorem sumsExactly_of_areSmall (h : AreSmall terms ns) :
    (ns.sum < UInt64.size * perSecond →
      ∃ d, read (String.ofList terms.flatten) = .ok d ∧ d.nanoseconds = ns.sum) ∧
    (UInt64.size * perSecond ≤ ns.sum →
      read (String.ofList terms.flatten) = .error (.outOfRange (String.ofList terms.flatten))) := by
  have htrim : Text.trim (String.ofList terms.flatten).toList = terms.flatten := by
    rw [String.toList_ofList, h.areTerms.trim]
  rw [read_flatten h.areTerms htrim, readTerms_flatten_of_small h.isSmall, zero, Nat.zero_add]
  constructor
  · intro hlt
    obtain ⟨d, hd⟩ : ∃ d : Duration, d.nanoseconds = ns.sum := ⟨⟨ns.sum, hlt⟩, rfl⟩
    exact ⟨d, by rw [ofNanoseconds?_eq_some_iff.2 hd]; rfl, hd⟩
  · intro hle
    rw [ofNanoseconds?_eq_none_iff.2 hle]
    rfl

/-- Terms of several units, whose numbers all have to be rounded, the first of them as long as they may be. -/
theorem exists_sumsExactly :
    AreSmall ["1125899.906842624s".toList, "0.3h".toList, "2.007ms".toList, "00.0070us".toList]
      [1125899906842624, 1080000000000, 2007000, 7] ∧
    ∃ d, read "1125899.906842624s0.3h2.007ms00.0070us" = .ok d ∧ d.nanoseconds = 1126979908849631 := by
  have hterm (t : DurationTerm) {word : List Char} {n : Nat} (hunit : t.unit.Written word) (hne : t.whole ≠ [])
      (hwhole : t.whole.all Char.isDigit) (hfraction : t.fraction.all Char.isDigit) (hexact : t.exact = n)
      (hn : n ≤ 2 ^ 50) : IsSmallTerm (t.number ++ word) n :=
    ⟨t, ⟨hne, List.all_eq_true.1 hwhole, List.all_eq_true.1 hfraction, word, hunit, rfl⟩, hexact, hn⟩
  have hseconds : IsSmallTerm "1125899.906842624s".toList 1125899906842624 :=
    hterm ⟨"1125899".toList, "906842624".toList, .second⟩ .second (by decide) (by decide) (by decide)
      (DurationTerm.exact_eq_iff.2 rfl) (by decide)
  have hhours : IsSmallTerm "0.3h".toList 1080000000000 :=
    hterm ⟨['0'], ['3'], .hour⟩ .hour (by decide) (by decide) (by decide)
      (DurationTerm.exact_eq_iff.2 rfl) (by decide)
  have hmillis : IsSmallTerm "2.007ms".toList 2007000 :=
    hterm ⟨['2'], "007".toList, .millisecond⟩ .millisecond (by decide) (by decide) (by decide)
      (DurationTerm.exact_eq_iff.2 rfl) (by decide)
  have hmicros : IsSmallTerm "00.0070us".toList 7 :=
    hterm ⟨['0', '0'], "0070".toList, .microsecond⟩ .microsecond (by decide) (by decide) (by decide)
      (DurationTerm.exact_eq_iff.2 rfl) (by decide)
  have h : AreSmall ["1125899.906842624s".toList, "0.3h".toList, "2.007ms".toList, "00.0070us".toList]
      [1125899906842624, 1080000000000, 2007000, 7] :=
    ⟨by decide, .cons hseconds (.cons hhours (.cons hmillis (.cons hmicros .nil)))⟩
  exact ⟨h, (sumsExactly_of_areSmall h).1 (by decide)⟩

end Duration
end ClusterPlan
