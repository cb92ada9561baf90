/-!
# Rounding to 53 bits

A measured value is held with 53 significant bits, as in double precision, and rounded to whole
units at the end. `Ratio.toBits53` takes a nonnegative fraction to the nearest number of that
precision, a tie to the even one, and `Ratio.nearestNat` takes it to the nearest natural number, a
tie to the greater one. Both compute on natural numbers, so nothing is lost besides the rounding
itself.
-/

namespace ClusterPlan

/-- A nonnegative fraction. -/
structure Ratio where
  num : Nat
  den : Nat
deriving Repr, DecidableEq

namespace Ratio

/-- The nearest natural number to `num / den`, a tie to the even one. -/
def roundHalfEven (num den : Nat) : Nat :=
  let q := num / den
  let r := num % den
  if 2 * r < den then q
  else if den < 2 * r then q + 1
  else if q % 2 = 0 then q else q + 1

/-- The exponent `e` such that `num / den` is at least `2 ^ e` and less than `2 ^ (e + 1)`, for
positive `num` and `den`. -/
def exponent (num den : Nat) : Int :=
  let e := (num.log2 : Int) - den.log2
  let atLeast := if 0 ≤ e then den <<< e.toNat ≤ num else den ≤ num <<< (-e).toNat
  if atLeast then e else e - 1

/-- The nearest fraction with 53 significant bits. -/
def toBits53 (r : Ratio) : Ratio :=
  if r.num = 0 then ⟨0, 1⟩
  else
    let shift := exponent r.num r.den - 52
    if 0 ≤ shift then
      ⟨roundHalfEven r.num (r.den <<< shift.toNat) <<< shift.toNat, 1⟩
    else
      ⟨roundHalfEven (r.num <<< (-shift).toNat) r.den, 1 <<< (-shift).toNat⟩

/-- A fraction times a natural number. -/
def scale (r : Ratio) (n : Nat) : Ratio :=
  ⟨r.num * n, r.den⟩

/-- The nearest natural number to a fraction, a tie to the greater one. -/
def nearestNat (r : Ratio) : Nat :=
  (2 * r.num + r.den) / (2 * r.den)

end Ratio
end ClusterPlan
