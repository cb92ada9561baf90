import ClusterPlan.Duration.Reader
import ClusterPlan.Proofs.Text.Numeral
import ClusterPlan.Text.Split
import Mathlib.Data.List.TakeWhile

/-!
# The grammar of durations

How a term is written, said without the scanner: a number, whose digits are of some class, and a unit
(`DurationTerm.Written`). The scanner takes off a text what is written as a term in digits of any script
(`DurationTerm.take?_append`), and nothing else (`DurationTerm.exists_written_of_take?`). A duration may
be written as terms one after the other (`Duration.AreTerms`), in ASCII digits.
-/

namespace ClusterPlan

namespace Text

theorem isDecimalDigit_of_isDigit {c : Char} (h : c.isDigit) : isDecimalDigit c := by
  simp only [Char.isDigit, Bool.and_eq_true, decide_eq_true_eq, ge_iff_le, UInt32.le_iff_toNat_le] at h
  refine List.any_eq_true.2 ⟨(0x30, 0x39), List.mem_cons_self, ?_⟩
  exact Bool.and_eq_true_iff.2 ⟨decide_eq_true h.1, decide_eq_true h.2⟩

theorem isBlank_of_isDigit {c : Char} (h : c.isDigit) : isBlank c = false := by
  simp only [Char.isDigit, Bool.and_eq_true, decide_eq_true_eq, ge_iff_le, UInt32.le_iff_toNat_le] at h
  have hlo : 48 ≤ c.toNat := h.1
  have hhi : c.toNat ≤ 57 := h.2
  simp only [isBlank, Bool.or_eq_false_iff, Bool.and_eq_false_iff, decide_eq_false_iff_not, beq_eq_false_iff_ne]
  omega

end Text

/-! ## Units -/

namespace TimeUnit

/-- How a unit is written. -/
inductive Written : List Char → TimeUnit → Prop where
  | nanosecond : Written ['n', 's'] .nanosecond
  | microsecond : Written ['u', 's'] .microsecond
  | micro : Written ['\u00b5', 's'] .microsecond
  | millisecond : Written ['m', 's'] .millisecond
  | second : Written ['s'] .second
  | minute : Written ['m'] .minute
  | hour : Written ['h'] .hour

variable {cs word rest : List Char} {u : TimeUnit}

theorem Written.exists_cons (h : Written word u) :
    ∃ c cs, word = c :: cs ∧ Text.isDecimalDigit c = false ∧ c ≠ '.' := by
  cases h <;> exact ⟨_, _, rfl, by decide, by decide⟩

theorem Written.exists_concat (h : Written word u) :
    ∃ cs c, word = cs ++ [c] ∧ Text.isBlank c = false ∧ c.isDigit = false ∧ c ≠ '+' := by
  cases h with
  | nanosecond => exact ⟨['n'], 's', rfl, by decide⟩
  | microsecond => exact ⟨['u'], 's', rfl, by decide⟩
  | micro => exact ⟨['\u00b5'], 's', rfl, by decide⟩
  | millisecond => exact ⟨['m'], 's', rfl, by decide⟩
  | second => exact ⟨[], 's', rfl, by decide⟩
  | minute => exact ⟨[], 'm', rfl, by decide⟩
  | hour => exact ⟨[], 'h', rfl, by decide⟩

/-- What is written as a unit is taken as that unit, unless an `s` follows, which makes another of `m`. -/
theorem take?_append (h : Written word u) (hrest : rest.head? ≠ some 's') :
    take? (word ++ rest) = some (u, rest) := by
  cases h with
  | minute =>
    show take? ('m' :: rest) = _
    unfold take?
    split
    case h_4 h =>
      obtain rfl := (List.cons.inj h).2
      exact absurd rfl hrest
    all_goals simp_all
  | _ => rfl

theorem exists_written_of_take? (h : take? cs = some (u, rest)) :
    ∃ word, Written word u ∧ cs = word ++ rest := by
  unfold take? at h
  split at h
  · cases h; exact ⟨_, .nanosecond, rfl⟩
  · cases h; exact ⟨_, .microsecond, rfl⟩
  · cases h; exact ⟨_, .micro, rfl⟩
  · cases h; exact ⟨_, .millisecond, rfl⟩
  · cases h; exact ⟨_, .second, rfl⟩
  · cases h; exact ⟨_, .minute, rfl⟩
  · cases h; exact ⟨_, .hour, rfl⟩
  · cases h

end TimeUnit

/-! ## Terms -/

namespace DurationTerm

/-- How a term is written in digits of a class: its number, with a point if there are digits after one, and
its unit. -/
structure Written (isDigit : Char → Bool) (cs : List Char) (t : DurationTerm) : Prop where
  whole_ne_nil : t.whole ≠ []
  isDigit_whole : ∀ c ∈ t.whole, isDigit c
  isDigit_fraction : ∀ c ∈ t.fraction, isDigit c
  text : ∃ word, t.unit.Written word ∧ cs = t.number ++ word

variable {cs rest : List Char} {t : DurationTerm} {p : Char → Bool}

theorem Written.imp {q : Char → Bool} (h : Written p cs t) (hpq : ∀ c, p c → q c) : Written q cs t :=
  ⟨h.whole_ne_nil, fun c hc => hpq c (h.isDigit_whole c hc), fun c hc => hpq c (h.isDigit_fraction c hc),
    h.text⟩

/-- A point and the digits after it, if there are any. -/
def fractionText (fraction : List Char) : List Char :=
  if fraction = [] then [] else '.' :: fraction

theorem number_eq (t : DurationTerm) : t.number = t.whole ++ fractionText t.fraction := by
  unfold number fractionText
  split
  · exact (List.append_nil _).symm
  · rfl

/-- A term begins with a digit. -/
theorem Written.exists_cons (h : Written p cs t) : ∃ c cs', cs = c :: cs' ∧ p c := by
  obtain ⟨word, -, rfl⟩ := h.text
  obtain ⟨c, whole, hwhole⟩ := List.exists_cons_of_ne_nil h.whole_ne_nil
  have hc := h.isDigit_whole c (hwhole ▸ List.mem_cons_self)
  exact ⟨c, whole ++ fractionText t.fraction ++ word, by rw [number_eq, hwhole]; rfl, hc⟩

/-- A term ends with a letter. -/
theorem Written.exists_concat (h : Written p cs t) :
    ∃ cs' c, cs = cs' ++ [c] ∧ Text.isBlank c = false ∧ c.isDigit = false ∧ c ≠ '+' := by
  obtain ⟨word, hword, rfl⟩ := h.text
  obtain ⟨cs', c, rfl, hc⟩ := hword.exists_concat
  exact ⟨t.number ++ cs', c, (List.append_assoc _ _ _).symm, hc⟩

theorem takeFraction_append {fraction word : List Char} {c : Char}
    (hall : ∀ d ∈ fraction, Text.isDecimalDigit d) (hc : Text.isDecimalDigit c = false) (hpoint : c ≠ '.') :
    takeFraction (fractionText fraction ++ c :: word) = (fraction, c :: word) := by
  unfold fractionText
  split
  · next hnil =>
    subst hnil
    unfold takeFraction
    split
    · next h => exact absurd (List.cons.inj h).1 hpoint
    · rfl
  · next hne =>
    have hhead : ∀ d ∈ (c :: word).head?, Text.isDecimalDigit d = false := by
      rintro d ⟨⟩
      exact hc
    obtain ⟨htake, hdrop⟩ := Text.span_append hall hhead
    rw [List.cons_append, takeFraction, htake, hdrop]
    split
    · exact absurd rfl hne
    · rfl

theorem span_append_fractionText {whole : List Char} {c : Char} (hall : ∀ d ∈ whole, Text.isDecimalDigit d)
    (hc : Text.isDecimalDigit c = false) (fraction word : List Char) :
    (whole ++ (fractionText fraction ++ c :: word)).takeWhile Text.isDecimalDigit = whole ∧
      (whole ++ (fractionText fraction ++ c :: word)).dropWhile Text.isDecimalDigit =
        fractionText fraction ++ c :: word := by
  refine Text.span_append hall ?_
  unfold fractionText
  split
  · rintro d ⟨⟩
    exact hc
  · rintro d ⟨⟩
    decide

/-- What is written as a term is taken as that term, unless what follows makes its unit another one. -/
theorem take?_append (h : Written Text.isDecimalDigit cs t) (hrest : rest.head? ≠ some 's') :
    take? (cs ++ rest) = some (t, rest) := by
  obtain ⟨word, hword, rfl⟩ := h.text
  have hunit := TimeUnit.take?_append hword hrest
  obtain ⟨c, word, rfl, hc, hpoint⟩ := hword.exists_cons
  obtain ⟨htake, hdrop⟩ := span_append_fractionText h.isDigit_whole hc t.fraction (word ++ rest)
  unfold take?
  rw [number_eq, List.append_assoc, List.append_assoc, List.cons_append, htake, hdrop,
    takeFraction_append h.isDigit_fraction hc hpoint]
  split
  · next hnil => exact absurd hnil h.whole_ne_nil
  · simp only [← List.cons_append, hunit, Option.map_some]

theorem takeFraction_spec (cs : List Char) : (∀ c ∈ (takeFraction cs).1, Text.isDecimalDigit c) ∧
    cs = fractionText (takeFraction cs).1 ++ (takeFraction cs).2 := by
  unfold takeFraction
  split
  · next rest =>
    split
    · exact ⟨nofun, rfl⟩
    · next hne =>
      refine ⟨fun c hc => List.mem_takeWhile_imp hc, ?_⟩
      rw [fractionText, if_neg hne, List.cons_append, List.takeWhile_append_dropWhile]
  · exact ⟨nofun, rfl⟩

/-- What is taken as a term is written as that term. -/
theorem exists_written_of_take? (h : take? cs = some (t, rest)) :
    ∃ term, Written Text.isDecimalDigit term t ∧ cs = term ++ rest := by
  unfold take? at h
  split at h
  · cases h
  · next hne =>
    obtain ⟨⟨u, rest'⟩, hunit, ht⟩ := Option.map_eq_some_iff.1 h
    cases ht
    obtain ⟨word, hword, hrest⟩ := TimeUnit.exists_written_of_take? hunit
    obtain ⟨hfraction, hdrop⟩ := takeFraction_spec (cs.dropWhile Text.isDecimalDigit)
    have hcs := List.takeWhile_append_dropWhile (p := Text.isDecimalDigit) (l := cs)
    refine ⟨_, ⟨hne, fun c hc => List.mem_takeWhile_imp hc, hfraction, word, hword, rfl⟩, ?_⟩
    rw [number_eq, List.append_assoc, List.append_assoc, ← hrest]
    show cs = cs.takeWhile Text.isDecimalDigit ++ (fractionText (takeFraction _).1 ++ (takeFraction _).2)
    rw [← hdrop, hcs]

end DurationTerm

/-! ## Durations -/

namespace Duration

/-- A text that is written as a term, in ASCII digits. -/
def IsTerm (cs : List Char) : Prop := ∃ t, DurationTerm.Written Char.isDigit cs t

/-- Texts of terms, one at least. -/
structure AreTerms (terms : List (List Char)) : Prop where
  ne_nil : terms ≠ []
  isTerm : ∀ cs ∈ terms, IsTerm cs

variable {terms : List (List Char)}

theorem exists_flatten_eq_cons (hne : terms ≠ []) (h : ∀ cs ∈ terms, IsTerm cs) :
    ∃ c cs, terms.flatten = c :: cs ∧ c.isDigit := by
  obtain ⟨first, terms, rfl⟩ := List.exists_cons_of_ne_nil hne
  obtain ⟨t, ht⟩ := h first List.mem_cons_self
  obtain ⟨c, cs, rfl, hc⟩ := ht.exists_cons
  exact ⟨c, cs ++ terms.flatten, List.flatten_cons, hc⟩

theorem AreTerms.exists_concat (h : AreTerms terms) :
    ∃ cs c, terms.flatten = cs ++ [c] ∧ Text.isBlank c = false ∧ c.isDigit = false ∧ c ≠ '+' := by
  obtain ⟨init, last, rfl⟩ := (List.eq_nil_or_concat terms).resolve_left h.ne_nil
  obtain ⟨t, ht⟩ := h.isTerm last (by simp)
  obtain ⟨cs, c, rfl, hc⟩ := ht.exists_concat
  exact ⟨init.flatten ++ cs, c, by simp, hc⟩

/-- No blanks stand before or after terms. -/
theorem AreTerms.trim (h : AreTerms terms) : Text.trim terms.flatten = terms.flatten := by
  obtain ⟨c, cs, hcons, hc⟩ := exists_flatten_eq_cons h.ne_nil h.isTerm
  obtain ⟨init, last, hconcat, hlast, -⟩ := h.exists_concat
  refine Text.trim_eq_self (c := c) (d := last) ?_ ?_ (Text.isBlank_of_isDigit hc) hlast
  · rw [hcons, List.head?_cons]
  · rw [hconcat, List.getLast?_concat]

/-- Terms are no bare number. -/
theorem AreTerms.natural?_eq_none (h : AreTerms terms) (limit : Nat) :
    Decimal.natural? limit terms.flatten = none := by
  obtain ⟨cs, c, hconcat, -, hdigit, hplus⟩ := h.exists_concat
  rw [hconcat]
  exact Decimal.natural?_eq_none_of_mem (by simp) hdigit hplus

theorem areTerms_singleton {cs : List Char} (h : IsTerm cs) : AreTerms [cs] :=
  ⟨List.cons_ne_nil _ _, fun _ hm => List.mem_singleton.1 hm ▸ h⟩

end Duration

theorem DurationTerm.Written.trim {cs : List Char} {t : DurationTerm} (h : Written Char.isDigit cs t) :
    Text.trim cs = cs := by
  have htrim := (Duration.areTerms_singleton ⟨t, h⟩).trim
  rwa [List.flatten_singleton] at htrim

end ClusterPlan
