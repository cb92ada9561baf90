/-!
# Decimal numbers

`digits` writes a natural number in base ten and `digits?` reads ASCII digits back, whatever their
number of leading zeros. `natural?` reads a number below a limit with an optional plus sign, and
`integer?` one with an optional sign, the way options and counts are written.

Main statement: `digits?_digits`, reading what was written gives the number back.
-/

namespace ClusterPlan.Decimal

/-- The value of an ASCII digit. -/
def digitValue? (c : Char) : Option Nat :=
  if '0' ≤ c ∧ c ≤ '9' then some (c.toNat - '0'.toNat) else none

/-- The ASCII digit with the value `d`, for `d < 10`. -/
def digitChar (d : Nat) : Char :=
  Char.ofNat ('0'.toNat + d)

/-- The value of ASCII digits read after a number `acc`; nothing if another character stands among
them. -/
def digitsFrom? (acc : Nat) : List Char → Option Nat
  | [] => some acc
  | c :: cs => do digitsFrom? (acc * 10 + (← digitValue? c)) cs

/-- The value of a nonempty run of ASCII digits. -/
def digits? : List Char → Option Nat
  | [] => none
  | c :: cs => digitsFrom? 0 (c :: cs)

/-- The decimal digits of a number, most significant first, without leading zeros. -/
def digits (n : Nat) : List Char :=
  if n < 10 then [digitChar n] else digits (n / 10) ++ [digitChar (n % 10)]
termination_by n
decreasing_by omega

/-- A number below `limit`: digits after an optional plus sign. -/
def natural? (limit : Nat) (cs : List Char) : Option Nat :=
  let value := match cs with
    | '+' :: rest => digits? rest
    | _ => digits? cs
  value.filter (· < limit)

/-- An integer from `-limit` to `limit - 1`: digits after an optional sign. -/
def integer? (limit : Nat) (cs : List Char) : Option Int :=
  match cs with
  | '-' :: rest => (digits? rest).bind fun n => if n ≤ limit then some (-(n : Int)) else none
  | _ => (natural? limit cs).map Int.ofNat

/-- The number of values of a 64-bit word, the limit of indexes and of whole seconds. -/
def wordLimit : Nat := UInt64.size

/-- The limit of the integers of 64 bits, the numbers of nodes and of the port of the API. -/
def signedLimit : Nat := wordLimit / 2

/-- An integer as a word of 64 bits, if it fits one. -/
def toInt64? (n : Int) : Option Int64 :=
  if -signedLimit ≤ n ∧ n < signedLimit then some (Int64.ofInt n) else none

/-- An integer of 64 bits: digits after an optional sign. -/
def int64? (cs : List Char) : Option Int64 :=
  (integer? signedLimit cs).map Int64.ofInt

/-- The text of an integer. -/
def integer (i : Int) : List Char :=
  if i < 0 then '-' :: digits i.natAbs else digits i.natAbs

/-! ### Reading what was written -/

theorem digitValue?_digitChar {d : Nat} (h : d < 10) : digitValue? (digitChar d) = some d := by
  match d, h with
  | 0, _ | 1, _ | 2, _ | 3, _ | 4, _ | 5, _ | 6, _ | 7, _ | 8, _ | 9, _ => rfl

theorem digitsFrom?_append (acc : Nat) (xs ys : List Char) :
    digitsFrom? acc (xs ++ ys) = (digitsFrom? acc xs).bind (digitsFrom? · ys) := by
  induction xs generalizing acc with
  | nil => rfl
  | cons c cs ih =>
    simp only [List.cons_append, digitsFrom?]
    cases digitValue? c <;> simp [ih]

theorem digitsFrom?_digits (n : Nat) : digitsFrom? 0 (digits n) = some n := by
  induction n using Nat.strongRecOn with
  | _ n ih =>
    rw [digits]
    split
    · next h => simp [digitsFrom?, digitValue?_digitChar h]
    · next h =>
      have hd : n % 10 < 10 := Nat.mod_lt _ (by decide)
      simp only [digitsFrom?_append, ih (n / 10) (by omega), Option.bind_some, digitsFrom?,
        digitValue?_digitChar hd, bind]
      congr 1
      omega

theorem digits_ne_nil (n : Nat) : digits n ≠ [] := by
  rw [digits]; split <;> simp

theorem digits?_eq_digitsFrom? {cs : List Char} (h : cs ≠ []) : digits? cs = digitsFrom? 0 cs := by
  cases cs with
  | nil => exact absurd rfl h
  | cons => rfl

/-- Reading the digits of a number gives the number. -/
theorem digits?_digits (n : Nat) : digits? (digits n) = some n := by
  rw [digits?_eq_digitsFrom? (digits_ne_nil n), digitsFrom?_digits]

end ClusterPlan.Decimal
