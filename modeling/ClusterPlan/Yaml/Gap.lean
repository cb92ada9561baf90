import ClusterPlan.Yaml.Cell

/-!
# Gaps between words

The blanks and line breaks between two words of a scalar. Within a line they are kept; across lines
they are folded: blanks go, a single line break becomes a blank, and of several line breaks the
first one goes.
-/

namespace ClusterPlan.Yaml

/-- The blanks and line breaks between two words. -/
structure Gap where
  /-- The blanks before the first line break. -/
  blanks : List Char
  breaks : List Char
  /-- Whether a tab stands after a line break and before the column `indent`. -/
  tabBefore : (indent : Nat) → Bool

namespace Gap

/-- The gap at the beginning of a text, and the text after it. -/
def take (cells : List Cell) : Gap × List Cell :=
  let run := cells.takeWhile (isGap ·.char)
  let onward := run.dropWhile (isBlank ·.char)
  ({ blanks := (run.takeWhile (isBlank ·.char)).map (·.char)
     breaks := (onward.map (·.char)).filter isBreak
     tabBefore := fun indent => onward.any fun c => c.char = '\t' && c.column < indent },
    cells.dropWhile (isGap ·.char))

/-- Whether the words stand on different lines. -/
def isFolded (g : Gap) : Bool :=
  g.breaks ≠ []

/-- Line breaks as they are folded. -/
def fold : List Char → List Char
  | ['\n'] => [' ']
  | '\n' :: more => more
  | breaks => breaks

/-- What a gap is in the value of the scalar. -/
def text (g : Gap) : List Char :=
  if g.isFolded then fold g.breaks else g.blanks

theorem length_take_le (cells : List Cell) : (take cells).2.length ≤ cells.length :=
  (List.dropWhile_sublist _).length_le

theorem length_take_lt {c : Cell} {cells : List Cell} (h : isGap c.char = true) :
    (take (c :: cells)).2.length < (c :: cells).length := by
  simp only [take, List.dropWhile_cons, h, if_true, List.length_cons]
  exact Nat.lt_succ_of_le (List.dropWhile_sublist _).length_le

end Gap
end ClusterPlan.Yaml
