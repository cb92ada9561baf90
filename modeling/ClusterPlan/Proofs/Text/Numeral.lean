import ClusterPlan.Text.Decimal

/-!
# Numerals

What the readers of `Decimal` accept, said without them: a numeral is a nonempty run of ASCII digits
(`IsNumeral`) and denotes its value in base ten (`value`). `digits?_eq_some_iff` and
`natural?_eq_some_iff` say that the readers accept exactly these texts. A number is read back from what is
written of it (`int64?_integer`), and of the numerals with its value only that one has no leading zero
(`digits_of_digits?`).
-/

namespace ClusterPlan.Decimal

/-- The number that digits written after a number `acc` make up. -/
def valueFrom (acc : Nat) (cs : List Char) : Nat :=
  cs.foldl (fun v c => v * 10 + (c.toNat - '0'.toNat)) acc

/-- The number that digits denote, the most significant first. -/
def value (cs : List Char) : Nat := valueFrom 0 cs

/-- A nonempty run of ASCII digits. -/
structure IsNumeral (cs : List Char) : Prop where
  ne_nil : cs ≠ []
  isDigit : ∀ c ∈ cs, c.isDigit

theorem digitValue?_eq_some_iff {c : Char} {d : Nat} :
    digitValue? c = some d ↔ c.isDigit ∧ d = c.toNat - '0'.toNat := by
  have hd : ('0' ≤ c ∧ c ≤ '9') ↔ c.isDigit := by
    rw [Char.isDigit, Bool.and_eq_true, decide_eq_true_eq, decide_eq_true_eq]
    rfl
  rw [digitValue?]
  split
  · next h => rw [Option.some.injEq, eq_comm, and_iff_right (hd.1 h)]
  · next h => exact ⟨nofun, fun hc => absurd (hd.2 hc.1) h⟩

theorem digitsFrom?_eq_some_iff {acc n : Nat} {cs : List Char} :
    digitsFrom? acc cs = some n ↔ (∀ c ∈ cs, c.isDigit) ∧ n = valueFrom acc cs := by
  induction cs generalizing acc with
  | nil => simp only [digitsFrom?, valueFrom, Option.some.injEq, List.foldl_nil, List.not_mem_nil,
      false_implies, implies_true, true_and, eq_comm]
  | cons c cs ih =>
    simp only [digitsFrom?, Option.bind_eq_bind, Option.bind_eq_some_iff, digitValue?_eq_some_iff, ih,
      List.forall_mem_cons]
    constructor
    · rintro ⟨d, ⟨hc, rfl⟩, hcs, rfl⟩
      exact ⟨⟨hc, hcs⟩, rfl⟩
    · rintro ⟨⟨hc, hcs⟩, rfl⟩
      exact ⟨_, ⟨hc, rfl⟩, hcs, rfl⟩

theorem digits?_eq_some_iff {cs : List Char} {n : Nat} :
    digits? cs = some n ↔ IsNumeral cs ∧ n = value cs := by
  by_cases h : cs = []
  · subst h
    exact ⟨fun hn => (Option.noConfusion rfl (heq_of_eq hn)), fun hn => absurd rfl hn.1.ne_nil⟩
  · rw [digits?_eq_digitsFrom? h, digitsFrom?_eq_some_iff]
    exact ⟨fun ⟨hd, hn⟩ => ⟨⟨h, hd⟩, hn⟩, fun ⟨hd, hn⟩ => ⟨hd.isDigit, hn⟩⟩

/-- A number below `limit`, written as a numeral with or without a plus sign before it. -/
inductive IsNatural (limit : Nat) : List Char → Nat → Prop where
  | unsigned {cs : List Char} (h : IsNumeral cs) (hl : value cs < limit) :
    IsNatural limit cs (value cs)
  | plus {cs : List Char} (h : IsNumeral cs) (hl : value cs < limit) :
    IsNatural limit ('+' :: cs) (value cs)

theorem IsNumeral.not_mem {cs : List Char} (h : IsNumeral cs) {c : Char} (hc : c.isDigit = false) :
    c ∉ cs := by
  intro hm
  rw [h.isDigit c hm] at hc
  cases hc

theorem IsNatural.ne_nil {limit n : Nat} {cs : List Char} (h : IsNatural limit cs n) : cs ≠ [] := by
  cases h with
  | unsigned hd _ => exact hd.ne_nil
  | plus _ _ => exact List.cons_ne_nil _ _

theorem IsNatural.lt {limit n : Nat} {cs : List Char} (h : IsNatural limit cs n) : n < limit := by
  cases h with
  | unsigned _ hl => exact hl
  | plus _ hl => exact hl

/-- Of the characters of a natural number, only a plus sign is no digit. -/
theorem IsNatural.not_mem {limit n : Nat} {cs : List Char} (h : IsNatural limit cs n) {c : Char}
    (hc : c.isDigit = false) (hp : c ≠ '+') : c ∉ cs := by
  cases h with
  | unsigned hd _ => exact hd.not_mem hc
  | plus hd _ => exact fun hm => (List.mem_cons.1 hm).elim hp (hd.not_mem hc)

theorem natural?_eq_some_iff {limit n : Nat} {cs : List Char} :
    natural? limit cs = some n ↔ IsNatural limit cs n := by
  simp only [natural?, Option.filter_eq_some_iff, decide_eq_true_eq]
  constructor
  · rintro ⟨hv, hl⟩
    split at hv
    · obtain ⟨hd, rfl⟩ := digits?_eq_some_iff.1 hv
      exact .plus hd hl
    · obtain ⟨hd, rfl⟩ := digits?_eq_some_iff.1 hv
      exact .unsigned hd hl
  · intro h
    cases h with
    | plus hd hl => exact ⟨digits?_eq_some_iff.2 ⟨hd, rfl⟩, hl⟩
    | unsigned hd hl =>
      refine ⟨?_, hl⟩
      split
      · exact absurd List.mem_cons_self (hd.not_mem rfl)
      · exact digits?_eq_some_iff.2 ⟨hd, rfl⟩

theorem natural?_eq_none_of_mem {limit : Nat} {cs : List Char} {c : Char} (hm : c ∈ cs)
    (hc : c.isDigit = false) (hp : c ≠ '+') : natural? limit cs = none :=
  Option.eq_none_iff_forall_ne_some.2 fun _ hn => (natural?_eq_some_iff.1 hn).not_mem hc hp hm

/-- The digits of a number are a numeral. -/
theorem isNumeral_digits (n : Nat) : IsNumeral (digits n) :=
  (digits?_eq_some_iff.1 (digits?_digits n)).1

theorem value_digits (n : Nat) : value (digits n) = n :=
  (digits?_eq_some_iff.1 (digits?_digits n)).2.symm

theorem natural?_digits {limit n : Nat} (h : n < limit) : natural? limit (digits n) = some n := by
  have hn := IsNatural.unsigned (isNumeral_digits n) ((value_digits n).symm ▸ h)
  rwa [value_digits, ← natural?_eq_some_iff] at hn

/-! ## Integers -/

/-- An integer, written as a numeral with or without a sign before it. -/
inductive IsInteger : List Char → Int → Prop where
  | unsigned {cs : List Char} (h : IsNumeral cs) : IsInteger cs (value cs)
  | plus {cs : List Char} (h : IsNumeral cs) : IsInteger ('+' :: cs) (value cs)
  | minus {cs : List Char} (h : IsNumeral cs) : IsInteger ('-' :: cs) (-(value cs : Int))

theorem isInteger_of_isNatural {limit n : Nat} {cs : List Char} (h : IsNatural limit cs n) :
    IsInteger cs n := by
  cases h with
  | unsigned h _ => exact .unsigned h
  | plus h _ => exact .plus h

theorem integer?_of_isNumeral {limit : Nat} {cs : List Char} (h : IsNumeral cs) :
    integer? limit cs = (natural? limit cs).map Int.ofNat := by
  unfold integer?
  split
  · exact absurd List.mem_cons_self (h.not_mem rfl)
  · rfl

/-- The integers that are read are those that are written as integers and are within the limit. -/
theorem integer?_eq_some_iff {limit : Nat} {cs : List Char} {i : Int} (hpos : 0 < limit) :
    integer? limit cs = some i ↔ IsInteger cs i ∧ -(limit : Int) ≤ i ∧ i < limit := by
  constructor
  · intro h
    unfold integer? at h
    split at h
    · obtain ⟨n, hn, h⟩ := Option.bind_eq_some_iff.1 h
      obtain ⟨hnum, rfl⟩ := digits?_eq_some_iff.1 hn
      split at h
      · cases h
        exact ⟨.minus hnum, by omega, by omega⟩
      · cases h
    · obtain ⟨n, hn, rfl⟩ := Option.map_eq_some_iff.1 h
      have hnat := natural?_eq_some_iff.1 hn
      have hlt := hnat.lt
      exact ⟨isInteger_of_isNatural hnat, by simp only [Int.ofNat_eq_natCast]; omega,
        by simp only [Int.ofNat_eq_natCast]; omega⟩
  · intro ⟨h, hlow, hhigh⟩
    cases h with
    | unsigned h =>
      rw [integer?_of_isNumeral h, natural?_eq_some_iff.2 (.unsigned h (by omega))]
      rfl
    | plus h =>
      show (natural? limit ('+' :: _)).map Int.ofNat = _
      rw [natural?_eq_some_iff.2 (.plus h (by omega))]
      rfl
    | minus h =>
      simp only [integer?, digits?_eq_some_iff.2 ⟨h, rfl⟩, Option.bind_some]
      rw [if_pos (by omega)]

theorem integer?_integer {limit : Nat} {i : Int} (hlow : -(limit : Int) ≤ i) (hhigh : i < limit) :
    integer? limit (integer i) = some i := by
  rw [integer]
  split
  · next hneg =>
    have habs : i.natAbs ≤ limit := by omega
    have hi : -(i.natAbs : Int) = i := by omega
    simp only [integer?, digits?_digits, Option.bind_some, if_pos habs, hi]
  · next hneg =>
    have habs : i.natAbs < limit := by omega
    have hi : (i.natAbs : Int) = i := by omega
    rw [integer?_of_isNumeral (isNumeral_digits _), natural?_digits habs, Option.map_some,
      Int.ofNat_eq_natCast, hi]

theorem toInt_bounds (n : Int64) : -(signedLimit : Int) ≤ n.toInt ∧ n.toInt < (signedLimit : Int) :=
  ⟨n.le_toInt, n.toInt_lt⟩

/-- The integers of 64 bits are read however they are written. -/
theorem integer?_signedLimit_eq_some_iff {cs : List Char} {i : Int} :
    integer? signedLimit cs = some i ↔
      IsInteger cs i ∧ Int64.minValue.toInt ≤ i ∧ i ≤ Int64.maxValue.toInt := by
  have hlow : Int64.minValue.toInt = -(signedLimit : Int) := rfl
  have hhigh : Int64.maxValue.toInt = (signedLimit : Int) - 1 := rfl
  rw [integer?_eq_some_iff (by decide), hlow, hhigh, Int.le_sub_one_iff]

theorem int64?_integer (n : Int64) : int64? (integer n.toInt) = some n := by
  obtain ⟨hlow, hhigh⟩ := toInt_bounds n
  rw [int64?, integer?_integer hlow hhigh, Option.map_some, Int64.ofInt_toInt]

theorem isSome_toInt64?_iff {n : Int} : (toInt64? n).isSome ↔
    Int64.minValue.toInt ≤ n ∧ n ≤ Int64.maxValue.toInt := by
  have hlow : Int64.minValue.toInt = -(signedLimit : Int) := rfl
  have hhigh : Int64.maxValue.toInt = (signedLimit : Int) - 1 := rfl
  rw [toInt64?, hlow, hhigh]
  split
  · next h => exact ⟨fun _ => ⟨h.1, by omega⟩, fun _ => rfl⟩
  · next h => exact ⟨nofun, fun hn => absurd ⟨hn.1, by omega⟩ h⟩

theorem toInt64?_toInt (n : Int64) : toInt64? n.toInt = some n := by
  rw [toInt64?, if_pos (toInt_bounds n), Int64.ofInt_toInt]

/-! ## Numerals without leading zeros -/

theorem digitChar_digitValue {c : Char} {d : Nat} (h : digitValue? c = some d) : digitChar d = c := by
  rw [digitValue?] at h
  split at h
  · next hc =>
    cases h
    have hle : '0'.toNat ≤ c.toNat := hc.1
    rw [digitChar, Nat.add_sub_cancel' hle, Char.ofNat_toNat]
  · cases h

theorem digitValue?_lt {c : Char} {d : Nat} (h : digitValue? c = some d) : d < 10 := by
  rw [digitValue?] at h
  split at h
  · next hc =>
    cases h
    have hle : c.toNat ≤ '9'.toNat := hc.2
    have h9 : '9'.toNat = '0'.toNat + 9 := rfl
    omega
  · cases h

/-- The digits after a number other than zero are written after its own digits. -/
theorem digits_of_digitsFrom? {acc n : Nat} {cs : List Char} (hacc : acc ≠ 0)
    (h : digitsFrom? acc cs = some n) : digits n = digits acc ++ cs := by
  induction cs generalizing acc with
  | nil =>
    cases h
    rw [List.append_nil]
  | cons c cs ih =>
    obtain ⟨d, hd, h⟩ := Option.bind_eq_some_iff.1 h
    have hlt := digitValue?_lt hd
    have hdigits : digits (acc * 10 + d) = digits acc ++ [c] := by
      rw [digits, if_neg (by omega), show (acc * 10 + d) / 10 = acc by omega,
        show (acc * 10 + d) % 10 = d by omega, digitChar_digitValue hd]
    rw [ih (by omega) h, hdigits, List.append_assoc, List.singleton_append]

/-- A numeral is written by the digits of its value, unless zeros stand in front of it. -/
theorem digits_of_digits? {n : Nat} {cs : List Char} (h : digits? cs = some n)
    (hzero : ¬ (cs.head? = some '0' ∧ 1 < cs.length)) : digits n = cs := by
  cases cs with
  | nil => cases h
  | cons c cs =>
    obtain ⟨d, hd, h⟩ := Option.bind_eq_some_iff.1 h
    rw [Nat.zero_mul, Nat.zero_add] at h
    have hc := digitChar_digitValue hd
    by_cases hd0 : d = 0
    · subst hd0
      cases cs with
      | nil =>
        cases h
        rw [digits, if_pos (by decide), hc]
      | cons => exact absurd ⟨congrArg some hc.symm, by simp⟩ hzero
    · rw [digits_of_digitsFrom? hd0 h, digits, if_pos (digitValue?_lt hd), hc, List.singleton_append]

theorem head?_digits_ne_zero {n : Nat} (h : n ≠ 0) : (digits n).head? ≠ some '0' := by
  induction n using Nat.strongRecOn with
  | _ n ih =>
    rw [digits]
    split
    · next hn =>
      have hall : ∀ d < 10, d ≠ 0 → [digitChar d].head? ≠ some '0' := by decide
      exact hall n hn h
    · next hn =>
      have hhead := ih (n / 10) (by omega) (by omega)
      cases hdigits : digits (n / 10) with
      | nil => exact absurd hdigits (digits_ne_nil _)
      | cons c cs => rwa [hdigits] at hhead

/-- No zero stands in front of the other digits of a number. -/
theorem digits_no_leading_zero (n : Nat) :
    ¬ ((digits n).head? = some '0' ∧ 1 < (digits n).length) := by
  rintro ⟨hhead, hlen⟩
  by_cases hn : n = 0
  · subst hn
    rw [digits, if_pos (by decide)] at hlen
    exact absurd hlen (Nat.lt_irrefl 1)
  · exact head?_digits_ne_zero hn hhead

theorem integer_natCast (n : Nat) : integer n = digits n :=
  if_neg (Int.not_lt.2 (Int.natCast_nonneg n))

theorem integer_neg_natCast {n : Nat} (h : n ≠ 0) : integer (-(n : Int)) = '-' :: digits n := by
  have hneg : -(n : Int) < 0 := by omega
  rw [integer, if_pos hneg, Int.natAbs_neg, Int.natAbs_natCast]

end ClusterPlan.Decimal
