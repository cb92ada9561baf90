import ClusterPlan.Text.Hexadecimal

/-!
# The meaning of plain scalars

A plain scalar may mean nothing, a truth value or a number instead of its text. `integer?` and the
other readers here say which texts do; `isText` tells those that only mean themselves.
-/

namespace ClusterPlan.Yaml.Meaning

/-- Whether a text means nothing; the empty text is treated apart. -/
def isNull (text : String) : Bool :=
  text = "null" || text = "Null" || text = "NULL" || text = "~"

/-- The truth value that a text means. -/
def truth? (text : String) : Option Bool :=
  if text = "true" ∨ text = "True" ∨ text = "TRUE" then some true
  else if text = "false" ∨ text = "False" ∨ text = "FALSE" then some false
  else none

/-! ### Integers -/

/-- The base that the beginning of a number tells, and the digits after it. -/
def base? : List Char → Option (Nat × List Char)
  | '0' :: 'x' :: digits => some (16, digits)
  | '0' :: 'o' :: digits => some (8, digits)
  | '0' :: 'b' :: digits => some (2, digits)
  | _ => none

/-- The number that digits write in a base. -/
def digits? (base : Nat) (cs : List Char) : Option Nat :=
  if cs = [] then none
  else cs.foldlM (fun n c => ((Hexadecimal.value? c).filter (· < base)).map (n * base + ·)) 0

/-- A text without a sign in front of it. -/
def unsigned : List Char → List Char
  | '+' :: rest => rest
  | '-' :: rest => rest
  | cs => cs

/-- Whether a text has only digits, and a zero in front of others, which makes it no number. -/
def isPaddedDigits (cs : List Char) : Bool :=
  match unsigned cs with
  | '0' :: c :: rest => (c :: rest).all Char.isDigit
  | _ => false

/-- The magnitude of an integer: digits after the sign for a base, or decimal digits. -/
def magnitude? (cs : List Char) : Option Nat :=
  match base? cs with
  | some (base, digits) => digits? base digits
  | none => if isPaddedDigits cs then none else digits? 10 cs

/-- The integer that a text means. -/
def integer? : List Char → Option Int
  | '-' :: rest => if rest.head? = some '+' ∨ rest.head? = some '-' then none
    else (magnitude? rest).map fun n => -(n : Int)
  | '+' :: rest => if rest.head? = some '+' ∨ rest.head? = some '-' then none
    else (magnitude? rest).map fun n => (n : Int)
  | cs => (magnitude? cs).map fun n => (n : Int)

/-! ### Other numbers -/

/-- A decimal number in parts. -/
structure Decimal where
  whole : List Char
  fraction : List Char
  exponent : Int

/-- The exponent that a text writes; zero if it is empty. -/
def exponent? : List Char → Option Int
  | [] => some 0
  | e :: cs =>
    if e = 'e' ∨ e = 'E' then
      match cs with
      | '-' :: digits => (digits? 10 digits).map fun n => -(n : Int)
      | '+' :: digits => (digits? 10 digits).map fun n => (n : Int)
      | digits => (digits? 10 digits).map fun n => (n : Int)
    else none

/-- A number with a point or an exponent, or both: digits stand before the point or after it. -/
def decimal? (cs : List Char) : Option Decimal :=
  let whole := cs.takeWhile Char.isDigit
  let (fraction, rest) := match cs.dropWhile Char.isDigit with
    | '.' :: rest => (rest.takeWhile Char.isDigit, rest.dropWhile Char.isDigit)
    | rest => ([], rest)
  if whole = [] ∧ fraction = [] then none
  else (exponent? rest).map fun exponent => { whole, fraction, exponent }

/-- The least number that is beyond double precision when it is rounded to nearest. -/
def beyondDouble : Nat := Nat.pow 2 1024 - Nat.pow 2 970

/-- Whether a decimal number is within the range of double precision. -/
def Decimal.isFinite (d : Decimal) : Bool :=
  let digits := (d.whole ++ d.fraction).dropWhile (· = '0')
  let exponent := d.exponent - d.fraction.length
  let size := exponent + digits.length
  if digits = [] ∨ size < 309 then true
  else if 309 < size then false
  else
    let n := (digits? 10 digits).getD 0
    if 0 ≤ exponent then n * Nat.pow 10 exponent.toNat < beyondDouble
    else n < beyondDouble * Nat.pow 10 (-exponent).toNat

/-- The words for infinity, which may have a sign. -/
def infinities : List String := [".inf", ".Inf", ".INF"]

/-- The words for what is no number. -/
def notNumbers : List String := [".nan", ".NaN", ".NAN"]

/-- Whether a text means a number with a point or an exponent, infinity, or no number. -/
def isReal (text : String) : Bool :=
  let cs := text.toList
  let rest := unsigned cs
  infinities.contains (String.ofList rest) || notNumbers.contains text ||
    (decimal? rest).any (·.isFinite)

/-- Whether an integer fits a word of 128 bits, with a sign or without. -/
def fitsLongWord (n : Int) : Bool :=
  if n < 0 then n.natAbs ≤ Nat.pow 2 127 else n.natAbs < Nat.pow 2 128

/-- Whether a text means a number. -/
def isNumber (text : String) : Bool :=
  let cs := text.toList
  (integer? cs).any fitsLongWord || (!isPaddedDigits cs && isReal text)

/-- Whether a text means just itself. Digits with a zero in front of them do not pass for that. -/
def isText (text : String) : Bool :=
  !(text = "" || isNull text || (truth? text).isSome || isNumber text ||
    isPaddedDigits text.toList)

end ClusterPlan.Yaml.Meaning
