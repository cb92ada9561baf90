/-!
# Hexadecimal digits

Digits of base sixteen are read in small and capital letters (`value?`) and written in either
(`lowerDigit`, `upperDigit`). A small letter is read as the value that it is written for.
-/

namespace ClusterPlan.Hexadecimal

/-- The value of a digit. -/
def value? (c : Char) : Option Nat :=
  if '0' ≤ c ∧ c ≤ '9' then some (c.toNat - '0'.toNat)
  else if 'a' ≤ c ∧ c ≤ 'f' then some (c.toNat - 'a'.toNat + 10)
  else if 'A' ≤ c ∧ c ≤ 'F' then some (c.toNat - 'A'.toNat + 10)
  else none

/-- The number that digits write. -/
def number? (cs : List Char) : Option Nat :=
  cs.foldlM (fun n c => (value? c).map (n * 16 + ·)) 0

/-- The digit with the value `n`, for `n < 16`, in small letters. -/
def lowerDigit (n : Nat) : Char :=
  if n < 10 then Char.ofNat ('0'.toNat + n) else Char.ofNat ('a'.toNat + (n - 10))

/-- The digit with the value `n`, for `n < 16`, in capital letters. -/
def upperDigit (n : Nat) : Char :=
  if n < 10 then Char.ofNat ('0'.toNat + n) else Char.ofNat ('A'.toNat + (n - 10))

theorem value?_lowerDigit {n : Nat} (h : n < 16) : value? (lowerDigit n) = some n := by
  have : ∀ n < 16, value? (lowerDigit n) = some n := by decide
  exact this n h

end ClusterPlan.Hexadecimal
