import ClusterPlan.Yaml.Cell

/-!
# Block scalars

A literal or folded block scalar begins with a header and takes up the lines below it that are
further in than the collection around it. Literal lines are kept as they are; folded lines are
joined by a blank unless one of them begins with a blank.
-/

namespace ClusterPlan.Yaml

namespace Block

/-- What becomes of the line breaks at the end of a block scalar. -/
inductive Chomping where
  /-- They go. -/
  | strip
  /-- The first one is kept. -/
  | clip
  /-- All of them are kept. -/
  | keep
deriving Repr, DecidableEq

/-- What stands after the bar or the angle that begins a block scalar. -/
structure Header where
  chomping : Chomping
  /-- How much further in the lines are, if the header says so. -/
  indent? : Option Nat
deriving Repr, DecidableEq

/-- The sign for a treatment of line breaks, and the text after it. -/
def takeChomping (cells : List Cell) : Option Chomping × List Cell :=
  match cells with
  | [] => (none, [])
  | c :: rest =>
    if c.char = '+' then (some .keep, rest)
    else if c.char = '-' then (some .strip, rest)
    else (none, cells)

/-- A digit that tells the indentation, and the text after it; zero is refused. -/
def takeIndent? (cells : List Cell) : Option (Option Nat × List Cell) :=
  match cells with
  | [] => some (none, [])
  | c :: rest =>
    if c.char = '0' then none
    else if c.char.isDigit then some (some (c.char.toNat - '0'.toNat), rest)
    else some (none, cells)

/-- The header of a block scalar, and the lines below it. -/
def header? (cells : List Cell) : Option (Header × List Cell) := do
  let (first, cells) := takeChomping cells
  let (indent?, cells) ← takeIndent? cells
  let (second, cells) := match first, indent? with
    | none, some _ => takeChomping cells
    | _, _ => (first, cells)
  let rest ← Cell.endLine? cells
  return ({ chomping := second.getD .clip, indent? }, rest)

/-- The line breaks before the next line that is not empty, the greatest column that the blanks on
the way reach, and the text from there on. Blanks are passed up to the column `indent`, all of them
if it is not known, and a tab must not stand there. -/
def breaks? (indent? : Option Nat) (reached : Nat) :
    List Cell → Option (List Char × Nat × List Cell)
  | [] => some ([], reached, [])
  | c :: rest =>
    let margin := indent?.all (c.column < ·)
    if margin && c.char = ' ' then breaks? indent? (max reached (c.column + 1)) rest
    else if margin && c.char = '\t' then none
    else if isBreak c.char then
      (breaks? indent? (max reached c.column) rest).map fun (breaks, reached, after) =>
        (c.char :: breaks, reached, after)
    else some ([], max reached c.column, c :: rest)

/-- A line of a block scalar that is not empty. -/
structure Line where
  text : List Char
  /-- The line break that ends it, if the text does not end with it. -/
  ending : List Char
  /-- The line breaks of the empty lines after it. -/
  empties : List Char
deriving Repr, DecidableEq

theorem length_of_breaks? {indent? : Option Nat} {reached reached' : Nat} {cells rest : List Cell}
    {breaks : List Char} (h : breaks? indent? reached cells = some (breaks, reached', rest)) :
    rest.length ≤ cells.length := by
  induction cells generalizing reached breaks with
  | nil => cases h; simp
  | cons c tail ih =>
    simp only [breaks?] at h
    split at h
    · exact Nat.le_succ_of_le (ih h)
    · split at h
      · cases h
      · split at h
        · obtain ⟨⟨b, r, a⟩, hb, he⟩ := Option.map_eq_some_iff.1 h
          cases he
          exact Nat.le_succ_of_le (ih hb)
        · cases h; simp

/-- The lines that begin at the column `indent`, and the text after them. -/
def lines? (indent : Nat) (cells : List Cell) : Option (List Line × List Cell) :=
  if cells.head?.any (·.column = indent) then
    match _hs : Cell.span (!isBreak ·) cells with
    | (text, []) => some ([{ text, ending := [], empties := [] }], [])
    | (text, b :: below) =>
      match _hb : breaks? (some indent) 0 below with
      | none => none
      | some (empties, _, rest) =>
        (lines? indent rest).map fun (lines, after) =>
          ({ text, ending := [b.char], empties } :: lines, after)
  else some ([], cells)
termination_by cells.length
decreasing_by
  have hb := length_of_breaks? _hb
  have hs := Cell.length_span_le (!isBreak ·) cells
  rw [_hs] at hs
  simp only [List.length_cons] at hs
  omega

/-- Whether a line begins with a blank. -/
def Line.isBlankLed (l : Line) : Bool :=
  l.text.head?.any isBlank

/-- The breaks between two lines that are folded. -/
def foldBetween (a b : Line) : List Char :=
  if a.ending = ['\n'] ∧ ¬ a.isBlankLed ∧ ¬ b.isBlankLed then
    if a.empties = [] then [' '] else a.empties
  else a.ending ++ a.empties

/-- What the end of the last line becomes. -/
def Chomping.apply (chomping : Chomping) (ending empties : List Char) : List Char :=
  match chomping with
  | .strip => []
  | .clip => ending
  | .keep => ending ++ empties

/-- The text of lines, with what stands between two of them and at their end. -/
def joinLines (between : Line → Line → List Char) (chomping : Chomping) : List Line → List Char
  | [] => []
  | [l] => l.text ++ chomping.apply l.ending l.empties
  | a :: b :: rest => a.text ++ between a b ++ joinLines between chomping (b :: rest)

/-- The text of a block scalar whose lines come after some empty ones. -/
def textOf (literal : Bool) (chomping : Chomping) (empties : List Char) (lines : List Line) :
    List Char :=
  if lines = [] then chomping.apply [] empties
  else
    let between := if literal then fun a _ => a.ending ++ a.empties else foldBetween
    empties ++ joinLines between chomping lines

/-- The block scalar whose header begins here, and the text after it. Its lines are further in than
the column `around?` of the block collection around it. -/
def read? (literal : Bool) (around? : Option Nat) (cells : List Cell) :
    Option (List Char × List Cell) := do
  let (header, cells) ← header? cells
  let known? := header.indent?.map (around?.getD 0 + ·)
  let (empties, reached, cells) ← breaks? known? 0 cells
  let least := around?.elim 1 (· + 1)
  let (lines, rest) ← lines? (known?.getD (max least reached)) cells
  return (textOf literal header.chomping empties lines, rest)

end Block
end ClusterPlan.Yaml
