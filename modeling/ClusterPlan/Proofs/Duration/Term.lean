import ClusterPlan.Proofs.Duration.Grammar
import ClusterPlan.Proofs.Outcome
import ClusterPlan.Proofs.Text.Numeral

/-!
# Terms of durations

A term has a duration exactly if its digits are those of ASCII and its nanoseconds fit a word of 64 bits
(`DurationTerm.duration_eq_ok_iff`), and a text of one term is read as the duration of that term
(`Duration.read_of_written`).
-/

namespace ClusterPlan

namespace DurationTerm

variable {cs rest : List Char} {t : DurationTerm}

/-! ### The duration of a term -/

/-- The number that the digits of a term denote. -/
def value (t : DurationTerm) : Ratio :=
  ⟨Decimal.value (t.whole ++ t.fraction), Nat.pow 10 t.fraction.length⟩

/-- The number of nanoseconds that the digits of a term and its unit denote. -/
def nanoseconds (t : DurationTerm) : Nat :=
  toNanoseconds t.value t.unit

theorem value?_eq_some_iff {r : Ratio} : value? t.whole t.fraction = some r ↔
    (∀ c ∈ t.whole ++ t.fraction, c.isDigit) ∧ r = t.value := by
  simp only [value?, Option.map_eq_some_iff, Decimal.digitsFrom?_eq_some_iff]
  constructor
  · rintro ⟨n, ⟨hall, rfl⟩, rfl⟩
    exact ⟨hall, rfl⟩
  · rintro ⟨hall, rfl⟩
    exact ⟨_, ⟨hall, rfl⟩, rfl⟩

end DurationTerm

theorem Decimal.wordLimit_eq : wordLimit = 18446744073709551616 := rfl

namespace Duration

theorem nanoseconds_inj {d e : Duration} (h : d.nanoseconds = e.nanoseconds) : d = e := by
  cases d
  cases e
  cases h
  rfl

theorem ofNanoseconds?_eq_some_iff {n : Nat} {d : Duration} :
    ofNanoseconds? n = some d ↔ d.nanoseconds = n := by
  unfold ofNanoseconds?
  constructor
  · intro h
    split at h
    · cases h
      rfl
    · cases h
  · rintro rfl
    exact dif_pos d.lt_limit

theorem ofNanoseconds?_of_lt {n : Nat} (h : n < Decimal.wordLimit) :
    ∃ d, ofNanoseconds? n = some d ∧ d.nanoseconds = n := by
  rw [Decimal.wordLimit_eq] at h
  have hn : n < UInt64.size * 1_000_000_000 := by
    rw [UInt64.size]
    omega
  exact ⟨⟨n, hn⟩, dif_pos hn, rfl⟩

end Duration

namespace DurationTerm

variable {cs rest : List Char} {t : DurationTerm} {text : String} {d : Duration}

theorem duration_of_isDigit (h : ∀ c ∈ t.whole ++ t.fraction, c.isDigit) : t.duration text =
    if t.nanoseconds < Decimal.wordLimit then
      (Duration.ofNanoseconds? t.nanoseconds).elim (.error (.outOfRange text)) .ok
    else .error (.outOfRange text) := by
  have hvalue := value?_eq_some_iff.2 ⟨h, rfl⟩
  simp only [duration, hvalue]
  rfl

/-- A term has a duration if its digits are those of ASCII and its nanoseconds fit a word. -/
theorem duration_eq_ok_iff : t.duration text = .ok d ↔ (∀ c ∈ t.whole ++ t.fraction, c.isDigit) ∧
    t.nanoseconds < Decimal.wordLimit ∧ d.nanoseconds = t.nanoseconds := by
  by_cases hall : ∀ c ∈ t.whole ++ t.fraction, c.isDigit
  · rw [duration_of_isDigit hall, and_iff_right hall]
    split
    · next hlt => rw [Outcome.elim_eq_ok_iff, Duration.ofNanoseconds?_eq_some_iff, and_iff_right hlt]
    · next hle => exact ⟨nofun, fun h => absurd h.1 hle⟩
  · have hvalue : value? t.whole t.fraction = none :=
      Option.eq_none_iff_forall_ne_some.2 fun _ hv => hall (value?_eq_some_iff.1 hv).1
    simp only [duration, hvalue]
    exact ⟨nofun, fun h => absurd h.1 hall⟩

/-- A term of ASCII digits has no duration only if its nanoseconds do not fit a word. -/
theorem duration_of_le (hall : ∀ c ∈ t.whole ++ t.fraction, c.isDigit)
    (h : Decimal.wordLimit ≤ t.nanoseconds) : t.duration text = .error (.outOfRange text) := by
  rw [duration_of_isDigit hall, if_neg (Nat.not_lt.2 h)]

theorem Written.isDigit (h : Written Char.isDigit cs t) : ∀ c ∈ t.whole ++ t.fraction, c.isDigit :=
  fun c hc => (List.mem_append.1 hc).elim (h.isDigit_whole c) (h.isDigit_fraction c)

end DurationTerm

/-! ## Reading terms -/

namespace Duration

variable {cs rest : List Char} {t : DurationTerm} {text : String} {total : Duration}

theorem zero_add? (d : Duration) : zero.add? d = some d := by
  simp only [add?, zero, Nat.zero_add, ofNanoseconds?, dif_pos d.lt_limit]

theorem readTerms_nil : readTerms text total [] = .ok total := by
  rw [readTerms]
  rfl

/-- What is read where a term stands: the term is added, and the rest is read. -/
theorem readTerms_of_take? (h : DurationTerm.take? cs = some (t, rest)) :
    readTerms text total cs = t.duration text >>= fun d =>
      (total.add? d).elim (.error (.outOfRange text)) fun total => readTerms text total rest := by
  obtain ⟨c, cs, rfl⟩ : ∃ c cs', cs = c :: cs' := List.exists_cons_of_ne_nil (by rintro rfl; cases h)
  have hfind : DurationTerm.find? (c :: cs) = some ([], t, rest) := by
    rw [DurationTerm.find?, h]
  rw [readTerms]
  split
  · next h => rw [hfind] at h; cases h
  · next gap term rest h =>
    rw [hfind] at h
    cases h
    rw [if_neg (not_not_intro rfl)]
    cases t.duration text with
    | error => rfl
    | ok d =>
      simp only [bind, Except.bind]
      cases total.add? d <;> rfl

/-- Terms are no bare number, and are read one after the other. -/
theorem read_flatten {terms : List (List Char)} (h : AreTerms terms)
    (htrim : Text.trim text.toList = terms.flatten) :
    read text = readTerms (String.ofList terms.flatten) zero terms.flatten := by
  obtain ⟨c, cs, hcons, -⟩ := exists_flatten_eq_cons h.ne_nil h.isTerm
  have hne : terms.flatten ≠ [] := hcons ▸ List.cons_ne_nil c cs
  unfold read
  simp only [htrim, if_neg hne, h.natural?_eq_none, Option.bind_none]

/-- A text of one term denotes what the term does. -/
theorem read_of_written (h : DurationTerm.Written Char.isDigit cs t) (htrim : Text.trim text.toList = cs) :
    read text = t.duration (String.ofList cs) := by
  have htake : DurationTerm.take? (cs ++ []) = some (t, []) :=
    DurationTerm.take?_append (h.imp fun _ => Text.isDecimalDigit_of_isDigit) nofun
  rw [List.append_nil] at htake
  rw [read_flatten (areTerms_singleton ⟨t, h⟩) (by rw [htrim, List.flatten_singleton]), List.flatten_singleton,
    readTerms_of_take? htake]
  cases t.duration (String.ofList cs) with
  | error => rfl
  | ok d =>
    show (zero.add? d).elim _ _ = _
    rw [zero_add?]
    exact readTerms_nil

end Duration
end ClusterPlan
