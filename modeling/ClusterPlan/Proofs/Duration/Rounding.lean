import ClusterPlan.Duration.Reader
import Mathlib.Algebra.Order.Field.Power
import Mathlib.Data.Rat.Cast.Order
import Mathlib.Tactic.FieldSimp
import Mathlib.Tactic.Linarith
import Mathlib.Tactic.Positivity
import Mathlib.Tactic.Ring

/-!
# How far rounding leads astray

What `Ratio` computes on natural numbers, said of the rational numbers that it stands for (`Ratio.toRat`):
a fraction with 53 significant bits differs from the one it was rounded from by at most its part in
`2 ^ 53` (`Ratio.abs_toRat_toBits53_sub_le`), and a whole number from its fraction by at most a half
(`Ratio.abs_nearestNat_sub_le`). A term of a duration goes through all three roundings, which bounds its
nanoseconds from both sides (`DurationTerm.abs_toNanoseconds_sub_le`).
-/

namespace ClusterPlan

namespace Ratio

/-- The number that a fraction denotes. -/
def toRat (r : Ratio) : ℚ := r.num / r.den

theorem toRat_nonneg (r : Ratio) : 0 ≤ r.toRat := by
  unfold toRat
  positivity

theorem toRat_scale (r : Ratio) (n : Nat) : (r.scale n).toRat = r.toRat * n := by
  simp only [toRat, scale, Nat.cast_mul]
  ring

/-! ## Whole numbers -/

/-- A number that is wrong by at most half of the divisor is a quotient that is wrong by at most a half. -/
theorem abs_sub_div_le {num den q : Nat} (hd : 0 < den) (hlo : 2 * num ≤ 2 * (den * q) + den)
    (hhi : 2 * (den * q) ≤ 2 * num + den) : |(q : ℚ) - num / den| ≤ 1 / 2 := by
  have hden : (0 : ℚ) < den := Nat.cast_pos.2 hd
  have hlo' : (2 * num : ℚ) ≤ 2 * (den * q) + den := by exact_mod_cast hlo
  have hhi' : (2 * (den * q) : ℚ) ≤ 2 * num + den := by exact_mod_cast hhi
  have hq : (q : ℚ) = den * q / den := by field_simp
  rw [hq, ← sub_div, abs_div, abs_of_pos hden, div_le_iff₀ hden, abs_le]
  constructor <;> linarith

theorem abs_roundHalfEven_sub_le (num : Nat) {den : Nat} (hd : 0 < den) :
    |(roundHalfEven num den : ℚ) - num / den| ≤ 1 / 2 := by
  have hdiv := Nat.div_add_mod num den
  have hmod := Nat.mod_lt num hd
  have hsucc : den * (num / den + 1) = den * (num / den) + den := Nat.mul_succ ..
  unfold roundHalfEven
  dsimp only
  refine abs_sub_div_le hd ?_ ?_
  · split_ifs <;> (try rw [hsucc]) <;> omega
  · split_ifs <;> (try rw [hsucc]) <;> omega

/-- The nearest whole number is at most a half away. -/
theorem abs_nearestNat_sub_le {r : Ratio} (hd : 0 < r.den) :
    |(r.nearestNat : ℚ) - r.toRat| ≤ 1 / 2 := by
  have hdiv := Nat.div_add_mod (2 * r.num + r.den) (2 * r.den)
  have hmod := Nat.mod_lt (2 * r.num + r.den) (show 0 < 2 * r.den by omega)
  rw [Nat.mul_assoc] at hdiv
  refine abs_sub_div_le hd ?_ ?_
  · unfold nearestNat
    omega
  · unfold nearestNat
    omega

/-! ## Significant bits -/

/-- The difference of the lengths of two numbers in bits is at most by one too large for an exponent. -/
theorem two_zpow_log2_sub_le {num den : Nat} (hn : 0 < num) (hd : 0 < den) :
    (2 : ℚ) ^ ((num.log2 : Int) - den.log2 - 1) ≤ num / den := by
  have hnum : (2 ^ num.log2 : ℚ) ≤ num := by exact_mod_cast Nat.log2_self_le (Nat.ne_of_gt hn)
  have hden : (den : ℚ) ≤ 2 ^ (den.log2 + 1) := by exact_mod_cast Nat.lt_log2_self.le
  have hsplit : (2 : ℚ) ^ ((num.log2 : Int) - den.log2 - 1) = 2 ^ num.log2 / 2 ^ (den.log2 + 1) := by
    rw [sub_sub, zpow_sub₀ two_ne_zero, zpow_natCast]
    exact_mod_cast rfl
  rw [hsplit]
  exact div_le_div₀ (Nat.cast_nonneg _) hnum (Nat.cast_pos.2 hd) hden

theorem lt_two_zpow_log2_sub (num : Nat) {den : Nat} (hd : 0 < den) :
    (num / den : ℚ) < 2 ^ ((num.log2 : Int) - den.log2 + 1) := by
  have hnum : (num : ℚ) < 2 ^ (num.log2 + 1) := by exact_mod_cast Nat.lt_log2_self
  have hden : (2 ^ den.log2 : ℚ) ≤ den := by exact_mod_cast Nat.log2_self_le (Nat.ne_of_gt hd)
  have hsplit : (2 : ℚ) ^ ((num.log2 : Int) - den.log2 + 1) = 2 ^ (num.log2 + 1) / 2 ^ den.log2 := by
    rw [sub_add_eq_add_sub, zpow_sub₀ two_ne_zero, zpow_natCast]
    exact_mod_cast rfl
  rw [hsplit]
  exact div_lt_div₀ hnum hden (by positivity) (by positivity)

/-- Shifts compare a fraction with a power of two. -/
theorem shiftLeft_le_iff (num : Nat) {den : Nat} (hd : 0 < den) (e : Int) :
    (if 0 ≤ e then den <<< e.toNat ≤ num else den ≤ num <<< (-e).toNat) ↔ (2 : ℚ) ^ e ≤ num / den := by
  have hden : (0 : ℚ) < den := Nat.cast_pos.2 hd
  split
  · next he =>
    obtain ⟨k, rfl⟩ := Int.eq_ofNat_of_zero_le he
    rw [Int.toNat_natCast, Nat.shiftLeft_eq, zpow_natCast, le_div_iff₀ hden, mul_comm]
    exact_mod_cast Iff.rfl
  · next he =>
    obtain ⟨k, rfl⟩ : ∃ k : Nat, e = -(k : Int) := ⟨(-e).toNat, by omega⟩
    rw [neg_neg, Int.toNat_natCast, Nat.shiftLeft_eq, zpow_neg, zpow_natCast,
      inv_le_iff_one_le_mul₀ (by positivity), div_mul_eq_mul_div, one_le_div₀ hden]
    exact_mod_cast Iff.rfl

theorem exponent_cases (num : Nat) {den : Nat} (hd : 0 < den) :
    exponent num den = (num.log2 : Int) - den.log2 ∧ (2 : ℚ) ^ ((num.log2 : Int) - den.log2) ≤ num / den ∨
      exponent num den = (num.log2 : Int) - den.log2 - 1 ∧
        (num / den : ℚ) < 2 ^ ((num.log2 : Int) - den.log2) := by
  have hshift := shiftLeft_le_iff num hd ((num.log2 : Int) - den.log2)
  unfold exponent
  dsimp only
  by_cases h : (2 : ℚ) ^ ((num.log2 : Int) - den.log2) ≤ num / den
  · exact .inl ⟨if_pos (hshift.2 h), h⟩
  · exact .inr ⟨if_neg fun hs => h (hshift.1 hs), not_le.1 h⟩

/-- A positive fraction is at least two to the power of its exponent. -/
theorem two_zpow_exponent_le {num den : Nat} (hn : 0 < num) (hd : 0 < den) :
    (2 : ℚ) ^ exponent num den ≤ num / den := by
  rcases exponent_cases num hd with ⟨he, hle⟩ | ⟨he, -⟩
  · rw [he]
    exact hle
  · rw [he]
    exact two_zpow_log2_sub_le hn hd

/-- A fraction is below two to the power of the number after its exponent. -/
theorem lt_two_zpow_exponent (num : Nat) {den : Nat} (hd : 0 < den) :
    (num / den : ℚ) < 2 ^ (exponent num den + 1) := by
  rcases exponent_cases num hd with ⟨he, -⟩ | ⟨he, hlt⟩
  · rw [he]
    exact lt_two_zpow_log2_sub num hd
  · rw [he, sub_add_cancel]
    exact hlt

theorem den_toBits53_pos (r : Ratio) : 0 < r.toBits53.den := by
  unfold toBits53
  dsimp only
  split_ifs
  · exact Nat.one_pos
  · exact Nat.one_pos
  · rw [Nat.one_shiftLeft]
    positivity

/-- A fraction rounded to a multiple of a power of two that is at most its part in `2 ^ 52`. -/
theorem abs_mul_zpow_sub_le {x : ℚ} {q : Nat} {shift : Int} (hx : (2 : ℚ) ^ (shift + 52) ≤ x)
    (hq : |(q : ℚ) - x / 2 ^ shift| ≤ 1 / 2) : |q * (2 : ℚ) ^ shift - x| ≤ x / 2 ^ 53 := by
  have hpow : (0 : ℚ) < 2 ^ shift := zpow_pos two_pos _
  have hsplit : (2 : ℚ) ^ (shift + 52) = 2 ^ shift * 2 ^ 52 := by
    rw [zpow_add₀ two_ne_zero]
    rfl
  have hmul : q * (2 : ℚ) ^ shift - x = (q - x / 2 ^ shift) * 2 ^ shift := by
    field_simp
  rw [hmul, abs_mul, abs_of_pos hpow]
  have hle := mul_le_mul_of_nonneg_right hq hpow.le
  rw [hsplit] at hx
  rw [le_div_iff₀ (by positivity)]
  linarith

theorem toRat_shiftLeft (q k : Nat) : toRat ⟨q <<< k, 1⟩ = q * (2 : ℚ) ^ (k : Int) := by
  simp [toRat, Nat.shiftLeft_eq]

theorem toRat_one_shiftLeft (q k : Nat) : toRat ⟨q, 1 <<< k⟩ = q * (2 : ℚ) ^ (-(k : Int)) := by
  simp [toRat, Nat.shiftLeft_eq, div_eq_mul_inv]

/-- A fraction with 53 significant bits is the nearest multiple of a power of two. -/
theorem exists_toRat_toBits53_eq {r : Ratio} (hn : r.num ≠ 0) (hd : 0 < r.den) {shift : Int}
    (hshift : exponent r.num r.den = shift + 52) :
    ∃ q : Nat, r.toBits53.toRat = q * (2 : ℚ) ^ shift ∧ |(q : ℚ) - r.toRat / 2 ^ shift| ≤ 1 / 2 := by
  unfold toBits53
  rw [if_neg hn, hshift, add_sub_cancel_right]
  dsimp only
  split
  · next hs =>
    obtain ⟨k, rfl⟩ := Int.eq_ofNat_of_zero_le hs
    rw [Int.toNat_natCast, toRat_shiftLeft]
    have hden : 0 < r.den <<< k := by
      rw [Nat.shiftLeft_eq]
      positivity
    have hround := abs_roundHalfEven_sub_le r.num hden
    refine ⟨_, rfl, ?_⟩
    simpa [toRat, Nat.shiftLeft_eq, div_div] using hround
  · next hs =>
    obtain ⟨k, rfl⟩ : ∃ k : Nat, shift = -(k : Int) := ⟨(-shift).toNat, by omega⟩
    rw [neg_neg, Int.toNat_natCast, toRat_one_shiftLeft]
    have hround := abs_roundHalfEven_sub_le (r.num <<< k) hd
    refine ⟨_, rfl, ?_⟩
    simpa [toRat, Nat.shiftLeft_eq, div_mul_eq_mul_div] using hround

/-- A fraction with 53 significant bits is wrong by at most its part in `2 ^ 53`. -/
theorem abs_toRat_toBits53_sub_le {r : Ratio} (hd : 0 < r.den) :
    |r.toBits53.toRat - r.toRat| ≤ r.toRat / 2 ^ 53 := by
  by_cases hn : r.num = 0
  · simp [toBits53, toRat, hn]
  · have hexp := two_zpow_exponent_le (Nat.pos_of_ne_zero hn) hd
    have hshift := (sub_add_cancel (exponent r.num r.den) 52).symm
    obtain ⟨q, hq, hround⟩ := exists_toRat_toBits53_eq hn hd hshift
    rw [hshift] at hexp
    rw [hq]
    exact abs_mul_zpow_sub_le hexp hround

end Ratio

/-! ## Terms -/

namespace DurationTerm

open Ratio

/-- The product of a value and a unit is rounded twice once the value is held with 53 bits. -/
theorem abs_toNanoseconds_sub_held_le (value : Ratio) (unit : TimeUnit) :
    |(toNanoseconds value unit : ℚ) - value.toBits53.toRat * unit.nanoseconds| ≤
      1 / 2 + value.toBits53.toRat * unit.nanoseconds / 2 ^ 53 := by
  have hproduct := abs_toRat_toBits53_sub_le (r := value.toBits53.scale unit.nanoseconds)
    (den_toBits53_pos value)
  have hwhole := abs_nearestNat_sub_le (den_toBits53_pos (value.toBits53.scale unit.nanoseconds))
  rw [toRat_scale] at hproduct
  change |(toNanoseconds value unit : ℚ) - _| ≤ _ at hwhole
  rw [abs_le] at hproduct hwhole ⊢
  constructor <;> linarith

/-- The nanoseconds of a term are its exact value but for a half and three parts in `2 ^ 53`. -/
theorem abs_toNanoseconds_sub_le {value : Ratio} (hd : 0 < value.den) (unit : TimeUnit) :
    |(toNanoseconds value unit : ℚ) - value.toRat * unit.nanoseconds| ≤
      1 / 2 + 3 * (value.toRat * unit.nanoseconds) / 2 ^ 53 := by
  have hunit : (0 : ℚ) ≤ unit.nanoseconds := Nat.cast_nonneg _
  have hheld := abs_toRat_toBits53_sub_le hd
  have hround := abs_toNanoseconds_sub_held_le value unit
  have hscaled : |value.toBits53.toRat * unit.nanoseconds - value.toRat * unit.nanoseconds| ≤
      value.toRat * unit.nanoseconds / 2 ^ 53 := by
    rw [← sub_mul, abs_mul, abs_of_nonneg hunit, mul_div_right_comm]
    exact mul_le_mul_of_nonneg_right hheld hunit
  have hexact : 0 ≤ value.toRat * unit.nanoseconds := mul_nonneg (toRat_nonneg value) hunit
  rw [abs_le] at hround hscaled ⊢
  constructor <;> linarith

end DurationTerm

end ClusterPlan
