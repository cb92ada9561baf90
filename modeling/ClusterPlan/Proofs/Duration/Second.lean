import ClusterPlan.Proofs.Duration.Exact
import ClusterPlan.Proofs.Duration.Sum
import ClusterPlan.Proofs.Duration.Whole

/-!
# Seconds with and without a unit

A bare number is one of seconds, and is read exactly, whatever word of 64 bits it is. With the unit after it,
it is a term: its nanoseconds have to fit a word and are rounded. The two are read the same exactly if the
number is one of `IsExactSeconds`; if it is not, the term is off by some nanoseconds, or it is not read at all
(`Duration.comparesSeconds_of_isNumeral`).
-/

namespace ClusterPlan

theorem Decimal.IsNumeral.trim {cs : List Char} (h : IsNumeral cs) : Text.trim cs = cs := by
  obtain ⟨c, tail, hcons⟩ := List.exists_cons_of_ne_nil h.ne_nil
  obtain ⟨init, last, hconcat⟩ := (List.eq_nil_or_concat cs).resolve_left h.ne_nil
  refine Text.trim_eq_self (c := c) (d := last) ?_ ?_ ?_ ?_
  · rw [hcons, List.head?_cons]
  · simp [hconcat]
  · exact Text.isBlank_of_isDigit (h.isDigit c (hcons ▸ List.mem_cons_self))
  · exact Text.isBlank_of_isDigit (h.isDigit last (by simp [hconcat]))

/-- A number of seconds whose nanoseconds are not rounded, nor too many for a word. -/
def IsExactSeconds (n : Nat) : Prop :=
  n ≤ 4611686018 ∨ 2 ∣ n ∧ n ≤ 9223372036 ∨ 4 ∣ n ∧ n ≤ 18446744073

theorem IsExactSeconds.le {n : Nat} (h : IsExactSeconds n) : n ≤ 18446744073 := by
  unfold IsExactSeconds at h
  omega

instance decidableIsExactSeconds (n : Nat) : Decidable (IsExactSeconds n) :=
  inferInstanceAs (Decidable (_ ∨ _))

/-- The nanoseconds of a second are nine times divisible by two. -/
theorem two_pow_dvd_of_dvd {n i : Nat} (h : 2 ^ (9 + i) ∣ n * 1000000000) : 2 ^ i ∣ n := by
  have hsplit : n * 1000000000 = 2 ^ 9 * (n * 1953125) := by ring
  rw [Nat.pow_add, hsplit] at h
  have hdvd := Nat.dvd_of_mul_dvd_mul_left (by decide) h
  have hcoprime : Nat.Coprime (2 ^ i) 1953125 := Nat.Coprime.pow_left i (by decide)
  exact hcoprime.dvd_of_dvd_mul_right hdvd

theorem fits_second_iff {n : Nat} (hn : n ≤ 18446744073) :
    Ratio.Fits (n * 1000000000 : Nat) ↔ IsExactSeconds n := by
  constructor
  · intro h
    by_cases hone : n ≤ 4611686018
    · exact .inl hone
    · have htwo : 2 ^ 1 ∣ n := two_pow_dvd_of_dvd (h.dvd (9 + 1) (by norm_num; omega))
      by_cases hhalf : n ≤ 9223372036
      · exact .inr (.inl ⟨htwo, hhalf⟩)
      · have hfour : 2 ^ 2 ∣ n := two_pow_dvd_of_dvd (h.dvd (9 + 2) (by norm_num; omega))
        exact .inr (.inr ⟨hfour, hn⟩)
  · rintro (h | ⟨⟨m, rfl⟩, h⟩ | ⟨⟨m, rfl⟩, h⟩)
    · rw [show n * 1000000000 = n * 1953125 * 2 ^ 9 by ring]
      exact Ratio.fits_of_mul (by omega)
    · rw [show 2 * m * 1000000000 = m * 1953125 * 2 ^ 10 by ring]
      exact Ratio.fits_of_mul (by omega)
    · rw [show 4 * m * 1000000000 = m * 1953125 * 2 ^ 11 by ring]
      exact Ratio.fits_of_mul (by omega)

namespace DurationTerm

theorem toRat_second (n : Nat) :
    (⟨n, 1⟩ : Ratio).toRat * TimeUnit.second.nanoseconds = (n * 1000000000 : Nat) := by
  simp [Ratio.toRat, TimeUnit.nanoseconds]

theorem fits_of_le {n : Nat} (hn : n ≤ 18446744073) : Ratio.Fits (⟨n, 1⟩ : Ratio).toRat := by
  have hfits : Ratio.Fits n := Ratio.fits_natCast (by omega)
  simpa [Ratio.toRat] using hfits

theorem toNanoseconds_second_eq_iff {n : Nat} (hn : n ≤ 18446744073) :
    toNanoseconds ⟨n, 1⟩ .second = n * 1000000000 ↔ IsExactSeconds n := by
  constructor
  · intro h
    by_cases hone : n ≤ 4611686018
    · exact .inl hone
    · exact (fits_second_iff hn).1 (fits_of_toNanoseconds_eq (by norm_num; omega) h)
  · intro h
    exact toNanoseconds_of_fits Nat.one_pos (fits_of_le hn) (toRat_second n) ((fits_second_iff hn).2 h)

theorem toNanoseconds_second_lt_iff {n : Nat} :
    toNanoseconds ⟨n, 1⟩ .second < Decimal.wordLimit ↔ n ≤ 18446744073 := by
  have hlt : toNanoseconds ⟨n, 1⟩ .second < Decimal.wordLimit ↔ n * 1000000000 < Decimal.wordLimit :=
    toNanoseconds_whole_lt_iff (by decide) (by decide)
  rw [hlt, Decimal.wordLimit_eq]
  omega

/-- What is rounded is off by at most the last of 53 bits. -/
theorem toNanoseconds_second_near {n : Nat} (hn : n ≤ 18446744073) :
    toNanoseconds ⟨n, 1⟩ .second ≤ n * 1000000000 + 2048 ∧
      n * 1000000000 ≤ toNanoseconds ⟨n, 1⟩ .second + 2048 := by
  have hround := abs_toNanoseconds_sub_le_of_fits Nat.one_pos (fits_of_le hn) .second
  have hmax : ((n * 1000000000 : Nat) : ℚ) ≤ 18446744073000000000 := by
    exact_mod_cast (by omega : n * 1000000000 ≤ 18446744073000000000)
  rw [toRat_second] at hround
  refine Ratio.nat_near_of_abs_sub_lt (lt_of_le_of_lt hround ?_)
  push_cast at hmax ⊢
  linarith

end DurationTerm

namespace Duration

variable {cs : List Char}

theorem read_numeral (hcs : Decimal.IsNumeral cs) (hlt : Decimal.value cs < Decimal.wordLimit) :
    ∃ d, read (String.ofList cs) = .ok d ∧ d.nanoseconds = Decimal.value cs * 1000000000 := by
  refine read_of_isNatural ?_
  rw [String.toList_ofList, hcs.trim]
  exact .unsigned hcs hlt

/-- How the number `n` of seconds, written as `cs`, is read by itself and with its unit after it. -/
structure ComparesSeconds (cs : List Char) (n : Nat) : Prop where
  bare : ∃ d, read (String.ofList cs) = .ok d ∧ d.seconds = n ∧ d.subsecond = 0
  same_iff : read (String.ofList (cs ++ ['s'])) = read (String.ofList cs) ↔ IsExactSeconds n
  near : n * 1000000000 < Decimal.wordLimit → ∃ d, read (String.ofList (cs ++ ['s'])) = .ok d ∧
    d.nanoseconds ≤ n * 1000000000 + 2048 ∧ n * 1000000000 ≤ d.nanoseconds + 2048
  beyond : Decimal.wordLimit ≤ n * 1000000000 →
    read (String.ofList (cs ++ ['s'])) = .error (.outOfRange (String.ofList (cs ++ ['s'])))

/-- Whether it makes a difference to a number of seconds that its unit is written. -/
theorem comparesSeconds_of_isNumeral (hcs : Decimal.IsNumeral cs)
    (hlt : Decimal.value cs < Decimal.wordLimit) : ComparesSeconds cs (Decimal.value cs) := by
  obtain ⟨d, hd, hn⟩ := read_numeral hcs hlt
  have hok {e : Duration} : read (String.ofList (cs ++ ['s'])) = .ok e ↔ _ :=
    read_whole_eq_ok_iff hcs .second
  have hbeyond := read_whole_of_le hcs .second
  rw [← Nat.not_lt, DurationTerm.toNanoseconds_second_lt_iff] at hbeyond
  simp only [DurationTerm.toNanoseconds_second_lt_iff] at hok
  generalize Decimal.value cs = n at hn hok hbeyond ⊢
  constructor
  case bare =>
    refine ⟨d, hd, ?_, ?_⟩
    · rw [seconds, hn, perSecond, Nat.mul_div_cancel _ (by decide)]
    · rw [subsecond, hn, perSecond, Nat.mul_mod_left]
  case same_iff =>
    rw [hd, hok, hn, eq_comm]
    constructor
    · rintro ⟨hle, heq⟩
      exact (DurationTerm.toNanoseconds_second_eq_iff hle).1 heq
    · intro h
      exact ⟨h.le, (DurationTerm.toNanoseconds_second_eq_iff h.le).2 h⟩
  case near =>
    intro h
    rw [Decimal.wordLimit_eq] at h
    have hle : n ≤ 18446744073 := by omega
    obtain ⟨e, -, he⟩ := ofNanoseconds?_of_lt (DurationTerm.toNanoseconds_second_lt_iff.2 hle)
    obtain ⟨hhi, hlo⟩ := DurationTerm.toNanoseconds_second_near hle
    rw [← he] at hhi hlo
    exact ⟨e, hok.2 ⟨hle, he⟩, hhi, hlo⟩
  case beyond =>
    intro h
    rw [Decimal.wordLimit_eq] at h
    exact hbeyond (by omega)

/-- An even number of seconds, whose nanoseconds have 63 bits. -/
theorem exists_comparesSeconds : Decimal.IsNumeral "9223372036".toList ∧
    Decimal.value "9223372036".toList < Decimal.wordLimit ∧ read "9223372036s" = read "9223372036" := by
  obtain ⟨hcs, hvalue⟩ := Decimal.digits?_eq_some_iff.1
    (by decide +kernel : Decimal.digits? "9223372036".toList = some 9223372036)
  have hlt : Decimal.value "9223372036".toList < Decimal.wordLimit := by
    rw [← hvalue, Decimal.wordLimit_eq]
    omega
  refine ⟨hcs, hlt, (comparesSeconds_of_isNumeral hcs hlt).same_iff.2 ?_⟩
  rw [← hvalue]
  decide

/-- Numbers of seconds that are read otherwise with their unit: one is rounded, and one is refused. -/
theorem exists_rounded_seconds :
    (read "4611686019").map nanoseconds = .ok 4611686019000000000 ∧
    (read "4611686019s").map nanoseconds = .ok 4611686019000000512 ∧
    (read "18446744074").map nanoseconds = .ok 18446744074000000000 ∧
    (read "18446744074s").map nanoseconds = .error (.outOfRange "18446744074s") := by
  decide +kernel

end Duration
end ClusterPlan
