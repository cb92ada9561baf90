import ClusterPlan.Proofs.Duration.Rounding

/-!
# Numbers of 53 bits

Which numbers survive the rounding of `Ratio.toBits53`: those that are a number below `2 ^ 53` times a power
of two (`Ratio.Fits`). Rounding takes each number to one that fits (`Ratio.fits_toRat_toBits53`) and leaves
alone those that do (`Ratio.toRat_toBits53_of_fits`). So the nanoseconds of a term are exact if its value and
its product with the unit fit (`DurationTerm.toNanoseconds_of_fits`), and where the product is large, only
then (`DurationTerm.fits_of_toNanoseconds_eq`).
-/

namespace ClusterPlan

namespace Ratio

/-! ## Whole numbers -/

/-- Whole numbers that are less than `c + 1` apart are at most `c` apart. -/
theorem nat_near_of_abs_sub_lt {a b c : Nat} (h : |(a : ℚ) - b| < c + 1) : a ≤ b + c ∧ b ≤ a + c := by
  have hab := abs_lt.1 h
  have hhi : (a : ℚ) < (b + c + 1 : Nat) := by
    push_cast
    linarith [hab.2]
  have hlo : (b : ℚ) < (a + c + 1 : Nat) := by
    push_cast
    linarith [hab.1]
  have hhi' : a < b + c + 1 := by exact_mod_cast hhi
  have hlo' : b < a + c + 1 := by exact_mod_cast hlo
  omega

theorem nat_eq_of_abs_sub_le {a b : Nat} (h : |(a : ℚ) - b| ≤ 1 / 2) : a = b := by
  have hnear : a ≤ b + 0 ∧ b ≤ a + 0 := nat_near_of_abs_sub_lt (lt_of_le_of_lt h (by norm_num))
  omega

theorem nearestNat_of_toRat_eq {r : Ratio} (hd : 0 < r.den) {n : Nat} (h : r.toRat = n) :
    r.nearestNat = n :=
  nat_eq_of_abs_sub_le (h ▸ abs_nearestNat_sub_le hd)

/-! ## Numbers that fit -/

/-- A number with 53 significant bits. -/
def Fits (x : ℚ) : Prop := ∃ (q : Nat) (k : Int), q < 2 ^ 53 ∧ x = q * (2 : ℚ) ^ k

theorem fits_natCast {n : Nat} (h : n < 2 ^ 53) : Fits n :=
  ⟨n, 0, h, by rw [zpow_zero, mul_one]⟩

/-- The part of a fraction in front of its exponent is below `2 ^ 53`, once it is shifted by 52 bits. -/
theorem div_two_zpow_lt {r : Ratio} (hd : 0 < r.den) {shift : Int}
    (hshift : exponent r.num r.den = shift + 52) : r.toRat / 2 ^ shift < 2 ^ 53 := by
  have hlt := lt_two_zpow_exponent r.num hd
  rw [hshift, add_assoc, zpow_add₀ two_ne_zero, mul_comm] at hlt
  rw [div_lt_iff₀ (zpow_pos two_pos _)]
  exact_mod_cast hlt

/-- What is rounded fits. -/
theorem fits_toRat_toBits53 {r : Ratio} (hd : 0 < r.den) : Fits r.toBits53.toRat := by
  by_cases hn : r.num = 0
  · refine ⟨0, 0, by norm_num, ?_⟩
    simp [toBits53, toRat, hn]
  · have hshift := (sub_add_cancel (exponent r.num r.den) 52).symm
    generalize exponent r.num r.den - 52 = shift at hshift
    obtain ⟨q, hq, hround⟩ := exists_toRat_toBits53_eq hn hd hshift
    have hlt := div_two_zpow_lt hd hshift
    have hle : (q : ℚ) < (2 ^ 53 + 1 : Nat) := by
      push_cast
      linarith [(abs_le.1 hround).2]
    have hle' : q < 2 ^ 53 + 1 := by exact_mod_cast hle
    -- Rounding may carry into one bit more, which leaves a power of two.
    rcases Nat.lt_or_ge q (2 ^ 53) with hq' | hq'
    · exact ⟨q, shift, hq', hq⟩
    · obtain rfl : q = 2 ^ 53 := by omega
      refine ⟨1, shift + 53, by norm_num, ?_⟩
      rw [hq, zpow_add₀ two_ne_zero]
      push_cast
      ring

/-- What fits is left alone. -/
theorem toRat_toBits53_of_fits {r : Ratio} (hd : 0 < r.den) (h : Fits r.toRat) :
    r.toBits53.toRat = r.toRat := by
  by_cases hn : r.num = 0
  · simp [toBits53, toRat, hn]
  · obtain ⟨q₀, k, hq₀, hx⟩ := h
    have hexp := two_zpow_exponent_le (Nat.pos_of_ne_zero hn) hd
    have hshift := (sub_add_cancel (exponent r.num r.den) 52).symm
    generalize exponent r.num r.den - 52 = shift at hshift
    obtain ⟨q, hq, hround⟩ := exists_toRat_toBits53_eq hn hd hshift
    have hle : shift ≤ k := by
      have hlt : (2 : ℚ) ^ (shift + 52) < 2 ^ (k + 53) := by
        have hq₀' : (q₀ : ℚ) < 2 ^ 53 := by exact_mod_cast hq₀
        have hpow : (0 : ℚ) < 2 ^ k := zpow_pos two_pos _
        calc (2 : ℚ) ^ (shift + 52) ≤ r.toRat := hshift ▸ hexp
          _ = q₀ * 2 ^ k := hx
          _ < 2 ^ 53 * 2 ^ k := mul_lt_mul_of_pos_right hq₀' hpow
          _ = 2 ^ (k + 53) := by rw [zpow_add₀ two_ne_zero, mul_comm]; rfl
      have hlt' := (zpow_lt_zpow_iff_right₀ one_lt_two).1 hlt
      omega
    obtain ⟨j, rfl⟩ := Int.le.dest hle
    -- The quotient is a whole number already, so that there is nothing to round.
    have hwhole : r.toRat / 2 ^ shift = (q₀ * 2 ^ j : Nat) := by
      rw [hx, zpow_add₀ two_ne_zero, zpow_natCast]
      push_cast
      field_simp
    rw [hwhole] at hround
    rw [hq, nat_eq_of_abs_sub_le hround, ← hwhole, div_mul_cancel₀ _ (zpow_ne_zero _ two_ne_zero)]

/-- A number that fits and is not below `2 ^ 53` is a whole number. -/
theorem Fits.exists_nat {x : ℚ} (h : Fits x) (hx : 2 ^ 53 ≤ x) : ∃ n : Nat, x = n := by
  obtain ⟨q, k, hq, rfl⟩ := h
  have hk : 0 ≤ k := by
    by_contra hneg
    have hq' : (q : ℚ) < 2 ^ 53 := by exact_mod_cast hq
    have hle : (2 : ℚ) ^ k ≤ 1 := zpow_le_one_of_nonpos₀ one_le_two (by omega)
    have hmul : (q : ℚ) * 2 ^ k ≤ q * 1 := mul_le_mul_of_nonneg_left hle (Nat.cast_nonneg q)
    linarith
  obtain ⟨j, rfl⟩ := Int.eq_ofNat_of_zero_le hk
  exact ⟨q * 2 ^ j, by push_cast; rw [zpow_natCast]⟩

/-- What fits and is not below a power of two is a multiple of the power for which 53 bits are left. -/
theorem Fits.dvd {n : Nat} (h : Fits n) (j : Nat) (hn : 2 ^ (j + 52) ≤ n) : 2 ^ j ∣ n := by
  obtain ⟨q, k, hq, hx⟩ := h
  have hq' : (q : ℚ) < 2 ^ 53 := by exact_mod_cast hq
  have hn' : (2 : ℚ) ^ (j + 52) ≤ n := by exact_mod_cast hn
  have hlt : (2 : ℚ) ^ ((j : Int) + 52) < 2 ^ (k + 53) := by
    calc (2 : ℚ) ^ ((j : Int) + 52) = 2 ^ (j + 52) := by exact_mod_cast zpow_natCast (2 : ℚ) (j + 52)
      _ ≤ q * 2 ^ k := hx ▸ hn'
      _ < 2 ^ 53 * 2 ^ k := mul_lt_mul_of_pos_right hq' (zpow_pos two_pos _)
      _ = 2 ^ (k + 53) := by rw [zpow_add₀ two_ne_zero, mul_comm]; rfl
  have hle := (zpow_lt_zpow_iff_right₀ one_lt_two).1 hlt
  obtain ⟨i, rfl⟩ : ∃ i : Nat, k = j + i := ⟨(k - j).toNat, by omega⟩
  refine ⟨q * 2 ^ i, ?_⟩
  have hmul : (n : ℚ) = (2 ^ j * (q * 2 ^ i) : Nat) := by
    rw [hx, zpow_add₀ two_ne_zero, zpow_natCast, zpow_natCast]
    push_cast
    ring
  exact_mod_cast hmul

theorem fits_of_mul {q j : Nat} (hq : q < 2 ^ 53) : Fits (q * 2 ^ j : Nat) :=
  ⟨q, j, hq, by push_cast; rw [zpow_natCast]⟩

end Ratio

/-! ## Terms -/

namespace DurationTerm

open Ratio

/-- The nanoseconds of a term are exact if nothing has to be rounded. -/
theorem toNanoseconds_of_fits {value : Ratio} (hd : 0 < value.den) {u : TimeUnit} {m : Nat}
    (hv : Fits value.toRat) (hm : value.toRat * u.nanoseconds = m) (hfits : Fits m) :
    toNanoseconds value u = m := by
  have hheld : value.toBits53.toRat = value.toRat := toRat_toBits53_of_fits hd hv
  have hscaled : (value.toBits53.scale u.nanoseconds).toRat = m := by rw [toRat_scale, hheld, hm]
  have hden : 0 < (value.toBits53.scale u.nanoseconds).den := den_toBits53_pos value
  refine nearestNat_of_toRat_eq (den_toBits53_pos _) ?_
  rw [toRat_toBits53_of_fits hden (hscaled ▸ hfits), hscaled]

/-- Where the value of a term fits, only its product with the unit is rounded. -/
theorem abs_toNanoseconds_sub_le_of_fits {value : Ratio} (hd : 0 < value.den) (hv : Fits value.toRat)
    (u : TimeUnit) : |(toNanoseconds value u : ℚ) - value.toRat * u.nanoseconds| ≤
      1 / 2 + value.toRat * u.nanoseconds / 2 ^ 53 := by
  have hround := abs_toNanoseconds_sub_held_le value u
  rwa [toRat_toBits53_of_fits hd hv] at hround

/-- A large number of nanoseconds is exact only if it fits. -/
theorem fits_of_toNanoseconds_eq {value : Ratio} {u : TimeUnit} {m : Nat} (hm : 2 ^ 53 < m)
    (h : toNanoseconds value u = m) : Fits m := by
  have hden : 0 < (value.toBits53.scale u.nanoseconds).den := den_toBits53_pos value
  have hfits := fits_toRat_toBits53 hden
  have hround := abs_nearestNat_sub_le (den_toBits53_pos (value.toBits53.scale u.nanoseconds))
  change |(toNanoseconds value u : ℚ) - _| ≤ _ at hround
  rw [h] at hround
  have hlarge : (2 ^ 53 + 1 : ℚ) ≤ m := by exact_mod_cast hm
  obtain ⟨n, hn⟩ := hfits.exists_nat (by linarith [(abs_le.1 hround).2])
  rw [hn] at hround hfits
  rwa [nat_eq_of_abs_sub_le hround]

end DurationTerm

end ClusterPlan
