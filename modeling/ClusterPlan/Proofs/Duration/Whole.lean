import ClusterPlan.Proofs.Duration.Rounding
import ClusterPlan.Proofs.Duration.Term

/-!
# Whole numbers of a unit

A whole number of some unit is written as a term without a point. Its nanoseconds are rounded
(`DurationTerm.abs_toNanoseconds_whole_sub_le`), but that does not take it across the limit, which lies far
from the multiples of the unit (`DurationTerm.toNanoseconds_whole_lt_iff`).
-/

namespace ClusterPlan

namespace DurationTerm

variable {n : Nat} {u : TimeUnit} {whole word : List Char}

theorem written_whole (hwhole : Decimal.IsNumeral whole) (hword : u.Written word) :
    Written Char.isDigit (whole ++ word) { whole, fraction := [], unit := u } :=
  ⟨hwhole.ne_nil, hwhole.isDigit, nofun, word, hword, rfl⟩

theorem nanoseconds_whole (whole : List Char) (u : TimeUnit) :
    nanoseconds { whole, fraction := [], unit := u } = toNanoseconds ⟨Decimal.value whole, 1⟩ u := by
  rw [nanoseconds, value, List.append_nil]
  rfl

theorem abs_toNanoseconds_whole_sub_le (n : Nat) (u : TimeUnit) :
    |(toNanoseconds ⟨n, 1⟩ u : ℚ) - n * u.nanoseconds| ≤ 1 / 2 + 3 * (n * u.nanoseconds) / 2 ^ 53 := by
  have hden : 0 < (⟨n, 1⟩ : Ratio).den := Nat.one_pos
  simpa [Ratio.toRat] using abs_toNanoseconds_sub_le hden u

/-- Rounding does not take a number of units across the limit, if no number of them is near it. -/
theorem toNanoseconds_whole_lt_iff (hlo : 8192 ≤ Decimal.wordLimit % u.nanoseconds)
    (hhi : Decimal.wordLimit % u.nanoseconds + 8192 ≤ u.nanoseconds) :
    toNanoseconds ⟨n, 1⟩ u < Decimal.wordLimit ↔ n * u.nanoseconds < Decimal.wordLimit := by
  have hround := abs_le.1 (abs_toNanoseconds_whole_sub_le n u)
  have hdiv := Nat.div_add_mod Decimal.wordLimit u.nanoseconds
  have hlimit : (Decimal.wordLimit : ℚ) = 18446744073709551616 := by rw [Decimal.wordLimit_eq]; norm_num
  constructor
  · intro h
    by_contra hn
    -- The next multiple of the unit after the limit.
    have hmul : u.nanoseconds * (Decimal.wordLimit / u.nanoseconds + 1) ≤ u.nanoseconds * n := by
      refine Nat.mul_le_mul_left _ ?_
      by_contra hlt
      have hle := Nat.mul_le_mul_left u.nanoseconds (show n ≤ Decimal.wordLimit / u.nanoseconds by omega)
      rw [Nat.mul_comm u.nanoseconds n] at hle
      omega
    have hfar : Decimal.wordLimit + 8192 ≤ n * u.nanoseconds := by
      rw [Nat.mul_succ, Nat.mul_comm _ n] at hmul
      omega
    have hfar' : (Decimal.wordLimit : ℚ) + 8192 ≤ n * u.nanoseconds := by exact_mod_cast hfar
    have hlt : (toNanoseconds ⟨n, 1⟩ u : ℚ) < Decimal.wordLimit := by exact_mod_cast h
    linarith [hround.1]
  · intro h
    have hle : n ≤ Decimal.wordLimit / u.nanoseconds :=
      (Nat.le_div_iff_mul_le (by omega)).2 h.le
    have hmul := Nat.mul_le_mul_left u.nanoseconds hle
    have hfar : n * u.nanoseconds + 8192 ≤ Decimal.wordLimit := by
      rw [Nat.mul_comm _ n] at hmul
      omega
    have hfar' : (n * u.nanoseconds : ℚ) + 8192 ≤ Decimal.wordLimit := by exact_mod_cast hfar
    have hlt : (toNanoseconds ⟨n, 1⟩ u : ℚ) < Decimal.wordLimit := by linarith [hround.2]
    exact_mod_cast hlt

theorem toNanoseconds_whole_pos_iff (hu : 1 < u.nanoseconds) : 0 < toNanoseconds ⟨n, 1⟩ u ↔ 0 < n := by
  have hround := abs_le.1 (abs_toNanoseconds_whole_sub_le n u)
  constructor
  · intro h
    by_contra hn
    obtain rfl : n = 0 := by omega
    have hone : (1 : ℚ) ≤ toNanoseconds ⟨0, 1⟩ u := by exact_mod_cast h
    rw [Nat.cast_zero, zero_mul] at hround
    linarith [hround.2]
  · intro h
    have hone : (1 : ℚ) ≤ n * u.nanoseconds := by exact_mod_cast Nat.mul_pos h (by omega)
    have hpos : (0 : ℚ) < toNanoseconds ⟨n, 1⟩ u := by linarith [hround.1]
    exact_mod_cast hpos

end DurationTerm

namespace Duration

variable {u : TimeUnit} {whole word : List Char}

theorem read_whole (hwhole : Decimal.IsNumeral whole) (hword : u.Written word) :
    read (String.ofList (whole ++ word)) =
      DurationTerm.duration (String.ofList (whole ++ word)) { whole, fraction := [], unit := u } := by
  have hwritten := DurationTerm.written_whole hwhole hword
  refine read_of_written hwritten ?_
  rw [String.toList_ofList, hwritten.trim]

/-- A whole number of a unit is read if its nanoseconds fit a word. -/
theorem read_whole_eq_ok_iff (hwhole : Decimal.IsNumeral whole) (hword : u.Written word) {d : Duration} :
    read (String.ofList (whole ++ word)) = .ok d ↔
      DurationTerm.toNanoseconds ⟨Decimal.value whole, 1⟩ u < Decimal.wordLimit ∧
        d.nanoseconds = DurationTerm.toNanoseconds ⟨Decimal.value whole, 1⟩ u := by
  rw [read_whole hwhole hword, DurationTerm.duration_eq_ok_iff,
    and_iff_right (DurationTerm.written_whole hwhole hword).isDigit, DurationTerm.nanoseconds_whole]

theorem read_whole_of_le (hwhole : Decimal.IsNumeral whole) (hword : u.Written word)
    (hle : Decimal.wordLimit ≤ DurationTerm.toNanoseconds ⟨Decimal.value whole, 1⟩ u) :
    read (String.ofList (whole ++ word)) = .error (.outOfRange (String.ofList (whole ++ word))) := by
  rw [read_whole hwhole hword]
  refine DurationTerm.duration_of_le (DurationTerm.written_whole hwhole hword).isDigit ?_
  rw [DurationTerm.nanoseconds_whole]
  exact hle

end Duration
end ClusterPlan
