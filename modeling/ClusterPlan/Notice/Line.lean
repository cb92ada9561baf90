import ClusterPlan.Notice
import ClusterPlan.Text.Hexadecimal

/-!
# Lines of notices

A notice is shown on a line with its severity and its origin. Characters that would control the
terminal are written by their numbers.
-/

namespace ClusterPlan.Notice

/-- The hexadecimal digits of a number below 256. -/
def hexByte (n : Nat) : List Char :=
  [Hexadecimal.lowerDigit (n / 16), Hexadecimal.lowerDigit (n % 16)]

/-- A character as a line shows it. -/
def shownChar (c : Char) : List Char :=
  let n := c.toNat
  if n = 0x1B ∨ n = 0x07 ∨ n = 0x08 ∨ n = 0x0C ∨ n = 0x7F then '\\' :: 'x' :: hexByte n
  else if 0x80 ≤ n ∧ n ≤ 0x9F then '\\' :: 'u' :: '\x7b' :: hexByte n ++ ['\x7d']
  else [c]

/-- The line of a notice, without the time before it, the blanks that make severities equally wide, and
colours. -/
def line (n : Notice) : String :=
  let text := String.ofList (n.text.toList.flatMap shownChar)
  s!"{n.severity.word} {n.origin.path}: {text}\n"

end ClusterPlan.Notice
