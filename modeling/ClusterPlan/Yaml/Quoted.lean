import ClusterPlan.Text.Hexadecimal
import ClusterPlan.Yaml.Gap

/-!
# Quoted scalars

Between single quotes every character stands for itself, and a quote is written twice. Between
double quotes a backslash introduces characters by a letter or their number, and a line break after
it is left out. Both may go over several lines, but no document marker stands in them.
-/

namespace ClusterPlan.Yaml

namespace Quoted

/-- The text before the closing single quote, and what follows the quote. -/
def single? (cells : List Cell) : Option (List Char × List Cell) :=
  if Cell.atMarker cells then none
  else match cells with
    | [] => none
    | c :: rest =>
      if c.char = '\'' then
        match rest with
        | [] => some ([], [])
        | d :: rest' =>
          if d.char = '\'' then (single? rest').map fun (text, after) => ('\'' :: text, after)
          else some ([], d :: rest')
      else if _h : isGap c.char = true then
        (single? (Gap.take (c :: rest)).2).map fun (text, after) =>
          ((Gap.take (c :: rest)).1.text ++ text, after)
      else (single? rest).map fun (text, after) => (c.char :: text, after)
termination_by cells.length
decreasing_by
  · simp only [List.length_cons]; omega
  · exact Gap.length_take_lt _h
  · simp

/-- The character that a letter after a backslash stands for. -/
def letterEscape? : Char → Option Char
  | '0' => some '\x00'
  | 'a' => some '\x07'
  | 'b' => some '\x08'
  | 't' => some '\t'
  | '\t' => some '\t'
  | 'n' => some '\n'
  | 'v' => some '\x0b'
  | 'f' => some '\x0c'
  | 'r' => some '\r'
  | 'e' => some '\x1b'
  | ' ' => some ' '
  | '"' => some '"'
  | '/' => some '/'
  | '\\' => some '\\'
  | 'N' => some '\u0085'
  | '_' => some '\u00a0'
  | 'L' => some '\u2028'
  | 'P' => some '\u2029'
  | _ => none

/-- The number of hexadecimal digits that follow a letter after a backslash. -/
def digitCount? : Char → Option Nat
  | 'x' => some 2
  | 'u' => some 4
  | 'U' => some 8
  | _ => none

/-- The character with a number. -/
def charOf? (n : Nat) : Option Char :=
  if h : n.isValidChar then some (Char.ofNatAux n h) else none

/-- The character that is written after a backslash, and the number of cells that write it. -/
def escape? : List Cell → Option (Char × Nat)
  | [] => none
  | c :: rest =>
    match digitCount? c.char with
    | none => (letterEscape? c.char).map fun e => (e, 1)
    | some count =>
      let digits := (rest.take count).map (·.char)
      if digits.length < count then none
      else (Hexadecimal.number? digits).bind charOf? |>.map fun e => (e, count + 1)

/-- The text before the closing double quote, and what follows the quote. -/
def double? (cells : List Cell) : Option (List Char × List Cell) :=
  if Cell.atMarker cells then none
  else match cells with
    | [] => none
    | c :: rest =>
      if c.char = '"' then some ([], rest)
      else if c.char = '\\' then
        match rest with
        | [] => none
        | d :: tail =>
          if isBreak d.char then
            (double? (Gap.take tail).2).map fun (text, after) =>
              ((Gap.take tail).1.breaks ++ text, after)
          else match escape? (d :: tail) with
            | none => none
            | some (e, count) =>
              (double? ((d :: tail).drop count)).map fun (text, after) => (e :: text, after)
      else if _h : isGap c.char = true then
        (double? (Gap.take (c :: rest)).2).map fun (text, after) =>
          ((Gap.take (c :: rest)).1.text ++ text, after)
      else (double? rest).map fun (text, after) => (c.char :: text, after)
termination_by cells.length
decreasing_by
  · have := Gap.length_take_le tail
    simp only [List.length_cons]
    omega
  · simp only [List.length_drop, List.length_cons]
    omega
  · exact Gap.length_take_lt _h
  · simp

end Quoted
end ClusterPlan.Yaml
