import ClusterPlan.Duration.Basic
import ClusterPlan.Duration.Rounding
import ClusterPlan.Text.Blank
import ClusterPlan.Text.Decimal
import ClusterPlan.Text.DigitClass

/-!
# Reading durations

A duration is written as a number of seconds, or as terms one after the other, such as `1h30m` or
`1.5s`: digits, perhaps a point and more digits, and a unit. `Duration.read` adds the terms up. The
value of each is taken to 53 significant bits, before and after it is multiplied by its unit, and
then to whole nanoseconds.
-/

namespace ClusterPlan

/-- A unit of time. -/
inductive TimeUnit where
  | nanosecond
  | microsecond
  | millisecond
  | second
  | minute
  | hour
deriving Repr, DecidableEq

namespace TimeUnit

/-- The number of nanoseconds in a unit. -/
def nanoseconds : TimeUnit → Nat
  | .nanosecond => 1
  | .microsecond => 1_000
  | .millisecond => 1_000_000
  | .second => 1_000_000_000
  | .minute => 60 * 1_000_000_000
  | .hour => 3600 * 1_000_000_000

/-- The unit at the start of a text, and the rest; the longest that matches. -/
def take? : List Char → Option (TimeUnit × List Char)
  | 'n' :: 's' :: rest => some (.nanosecond, rest)
  | 'u' :: 's' :: rest => some (.microsecond, rest)
  | '\u00b5' :: 's' :: rest => some (.microsecond, rest)
  | 'm' :: 's' :: rest => some (.millisecond, rest)
  | 's' :: rest => some (.second, rest)
  | 'm' :: rest => some (.minute, rest)
  | 'h' :: rest => some (.hour, rest)
  | _ => none

end TimeUnit

/-- Why a text is no duration. -/
inductive DurationError where
  | empty
  | unexpected (gap : String)
  | invalidNumber (number : String)
  | outOfRange (text : String)
  | unknownUnit (text : String)
deriving Repr, DecidableEq

/-- The message that reports a failure. -/
def DurationError.message : DurationError → String
  | .empty => "empty duration"
  | .unexpected gap => s!"unexpected '{gap}'"
  | .invalidNumber number => s!"invalid number '{number}'"
  | .outOfRange text => s!"'{text}' is out of range"
  | .unknownUnit text => s!"unknown unit in '{text}'"

/-- A number, as digits before and after a point, and its unit. The digits may be of any script. -/
structure DurationTerm where
  whole : List Char
  fraction : List Char
  unit : TimeUnit
deriving Repr, DecidableEq

namespace DurationTerm

/-- The number of a term. -/
def number (t : DurationTerm) : List Char :=
  if t.fraction = [] then t.whole else t.whole ++ '.' :: t.fraction

/-- The value of ASCII digits before and after a point. -/
def value? (whole fraction : List Char) : Option Ratio :=
  (Decimal.digitsFrom? 0 (whole ++ fraction)).map fun n => ⟨n, Nat.pow 10 fraction.length⟩

/-- A fraction of a unit in whole nanoseconds. -/
def toNanoseconds (value : Ratio) (unit : TimeUnit) : Nat :=
  (value.toBits53.scale unit.nanoseconds).toBits53.nearestNat

/-- The duration of a term that stands in `text`. -/
def duration (text : String) (t : DurationTerm) : Except DurationError Duration :=
  match value? t.whole t.fraction with
  | none => .error (.invalidNumber (String.ofList t.number))
  | some value =>
    let n := toNanoseconds value t.unit
    if n < Decimal.wordLimit then (Duration.ofNanoseconds? n).elim (.error (.outOfRange text)) .ok
    else .error (.outOfRange text)

/-- The digits after a point at the start of a text, and the rest. -/
def takeFraction : List Char → List Char × List Char
  | '.' :: rest =>
    match rest.takeWhile Text.isDecimalDigit with
    | [] => ([], '.' :: rest)
    | fraction => (fraction, rest.dropWhile Text.isDecimalDigit)
  | rest => ([], rest)

/-- The term at the start of a text, and the rest. -/
def take? (cs : List Char) : Option (DurationTerm × List Char) :=
  match cs.takeWhile Text.isDecimalDigit with
  | [] => none
  | whole =>
    let fraction := takeFraction (cs.dropWhile Text.isDecimalDigit)
    (TimeUnit.take? fraction.2).map fun (unit, rest) =>
      ({ whole, fraction := fraction.1, unit }, rest)

/-- The first term of a text, with what stands before and after it. -/
def find? : List Char → Option (List Char × DurationTerm × List Char)
  | [] => none
  | c :: cs =>
    match take? (c :: cs) with
    | some (t, rest) => some ([], t, rest)
    | none => (find? cs).map fun (gap, t, rest) => (c :: gap, t, rest)

/-! ### A term takes up at least one character -/

end DurationTerm

theorem TimeUnit.length_lt_of_take? {cs rest : List Char} {u : TimeUnit}
    (h : TimeUnit.take? cs = some (u, rest)) : rest.length < cs.length := by
  unfold TimeUnit.take? at h
  split at h
  case h_8 => cases h
  all_goals
    cases h
    simp only [List.length_cons]
    omega

namespace DurationTerm

theorem length_takeFraction_le (cs : List Char) : (takeFraction cs).2.length ≤ cs.length := by
  unfold takeFraction
  split
  · next rest =>
    split
    · exact Nat.le_refl _
    · have := (List.dropWhile_sublist Text.isDecimalDigit (l := rest)).length_le
      simp only [List.length_cons]
      omega
  · exact Nat.le_refl _

theorem length_lt_of_take? {cs rest : List Char} {t : DurationTerm}
    (h : take? cs = some (t, rest)) : rest.length < cs.length := by
  unfold take? at h
  split at h
  · exact absurd h (by simp)
  · obtain ⟨⟨u, r⟩, hu, he⟩ := Option.map_eq_some_iff.1 h
    cases he
    have h₁ := TimeUnit.length_lt_of_take? hu
    have h₂ := length_takeFraction_le (cs.dropWhile Text.isDecimalDigit)
    have h₃ := (List.dropWhile_sublist Text.isDecimalDigit : (cs.dropWhile _).Sublist cs).length_le
    omega

theorem length_lt_of_find? {cs gap rest : List Char} {t : DurationTerm}
    (h : find? cs = some (gap, t, rest)) : rest.length < cs.length := by
  induction cs generalizing gap with
  | nil => simp [find?] at h
  | cons c cs ih =>
    rw [find?] at h
    split at h
    · next t' rest' ht =>
      cases h
      exact length_lt_of_take? ht
    · obtain ⟨⟨g, t', r⟩, hf, he⟩ := Option.map_eq_some_iff.1 h
      cases he
      exact Nat.lt_succ_of_lt (ih hf)

end DurationTerm

namespace Duration

/-- The sum of `total` and the terms of `cs`, which is the end of `text`. -/
def readTerms (text : String) (total : Duration) (cs : List Char) :
    Except DurationError Duration :=
  match _h : DurationTerm.find? cs with
  | none => if cs = [] then .ok total else .error (.unknownUnit text)
  | some (gap, term, rest) =>
    if gap ≠ [] then .error (.unexpected (String.ofList gap))
    else
      match term.duration text with
      | .error e => .error e
      | .ok d =>
        match total.add? d with
        | none => .error (.outOfRange text)
        | some total => readTerms text total rest
termination_by cs.length
decreasing_by exact DurationTerm.length_lt_of_find? _h

/-- The duration that a text denotes. -/
def read (text : String) : Except DurationError Duration :=
  let cs := Text.trim text.toList
  if cs = [] then .error .empty
  else match (Decimal.natural? Decimal.wordLimit cs).bind (ofNanoseconds? <| · * perSecond) with
    | some d => .ok d
    | none => readTerms (String.ofList cs) zero cs

end Duration
end ClusterPlan
