import ClusterPlan.Cluster.Descriptor
import ClusterPlan.Proofs.Duration.Whole

/-!
# Durations in whole milliseconds

A duration is written in whole milliseconds, in the form in which timeouts are given. What is written is
read as a timeout exactly if there is a millisecond to write, and if the milliseconds fit a word of 64 bits
as nanoseconds (`Duration.isTimeoutText_millisecondText_iff`), since a term has to; rounding does not blur
this limit (`DurationTerm.toNanoseconds_millisecond_lt_iff`).
-/

namespace ClusterPlan

theorem DurationTerm.toNanoseconds_millisecond_lt_iff {m : Nat} :
    toNanoseconds ⟨m, 1⟩ .millisecond < Decimal.wordLimit ↔ m * 1000000 < Decimal.wordLimit :=
  toNanoseconds_whole_lt_iff (by decide) (by decide)

namespace Duration

theorem millisecondText_eq (d : Duration) :
    d.millisecondText = String.ofList (Decimal.digits d.milliseconds ++ ['m', 's']) := by
  rw [millisecondText, String.ofList_append]

/-- Milliseconds that fit a word as nanoseconds are read back as some time, unless there are none. -/
theorem exists_read_millisecondText {d : Duration} (h : d.milliseconds * 1000000 < Decimal.wordLimit) :
    ∃ d', read d.millisecondText = .ok d' ∧ (0 < d'.nanoseconds ↔ 0 < d.milliseconds) := by
  have hlt := DurationTerm.toNanoseconds_millisecond_lt_iff.2 h
  obtain ⟨d', -, hn⟩ := ofNanoseconds?_of_lt hlt
  refine ⟨d', ?_, ?_⟩
  · rw [millisecondText_eq, read_whole_eq_ok_iff (Decimal.isNumeral_digits _) .millisecond,
      Decimal.value_digits]
    exact ⟨hlt, hn⟩
  · rw [hn, DurationTerm.toNanoseconds_whole_pos_iff (by decide)]

theorem read_millisecondText_of_le {d : Duration} (h : Decimal.wordLimit ≤ d.milliseconds * 1000000) :
    read d.millisecondText = .error (.outOfRange d.millisecondText) := by
  rw [millisecondText_eq]
  refine read_whole_of_le (Decimal.isNumeral_digits _) .millisecond (Nat.not_lt.1 fun hlt => ?_)
  rw [Decimal.value_digits, DurationTerm.toNanoseconds_millisecond_lt_iff] at hlt
  omega

/-- A text that is read as some time. -/
def IsTimeoutText (text : String) : Prop :=
  ∃ d, read text = .ok d ∧ 0 < d.nanoseconds

instance decidableIsTimeoutText (text : String) : Decidable (IsTimeoutText text) :=
  match h : read text with
  | .ok d => decidable_of_iff (0 < d.nanoseconds) (by simp [IsTimeoutText, h])
  | .error _ => .isFalse (by simp [IsTimeoutText, h])

theorem milliseconds_pos_iff {d : Duration} : 0 < d.milliseconds ↔ 1000000 ≤ d.nanoseconds := by
  unfold milliseconds
  omega

/-- Less than a millisecond is written as none, which is no time. -/
theorem millisecondText_of_lt {d : Duration} (h : d.nanoseconds < 1000000) :
    d.millisecondText = "0ms" := by
  have hzero : d.milliseconds = 0 := Nat.div_eq_of_lt h
  rw [millisecondText, hzero]
  decide +kernel

theorem read_zeroText : read "0ms" = .ok zero := by
  decide +kernel

/-- The milliseconds of a duration can be read back if there are any, and if they are not too many. -/
theorem isTimeoutText_millisecondText_iff {d : Duration} : IsTimeoutText d.millisecondText ↔
    1000000 ≤ d.nanoseconds ∧ d.milliseconds * 1000000 < Decimal.wordLimit := by
  rw [← milliseconds_pos_iff]
  by_cases hlt : d.milliseconds * 1000000 < Decimal.wordLimit
  · obtain ⟨d', hread, hpos⟩ := exists_read_millisecondText hlt
    rw [and_iff_left hlt, ← hpos, IsTimeoutText, hread]
    constructor
    · rintro ⟨e, he, hpos⟩
      cases he
      exact hpos
    · intro hpos
      exact ⟨d', rfl, hpos⟩
  · refine ⟨fun ⟨d', hread, _⟩ => ?_, fun h => absurd h.2 hlt⟩
    rw [read_millisecondText_of_le (Nat.not_lt.1 hlt)] at hread
    cases hread

end Duration
end ClusterPlan
