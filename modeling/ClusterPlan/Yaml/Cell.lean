/-!
# YAML text

In YAML the place of a character matters: indentation makes the structure. A `Cell` is a character
with its line and column, and `cells?` gives the cells of a text in which every line break is one
cell.
-/

namespace ClusterPlan.Yaml

/-- A character and its place in the text, both counted from zero. -/
structure Cell where
  char : Char
  line : Nat
  column : Nat
deriving Repr, DecidableEq

/-- The characters that end a line. -/
def isBreak (c : Char) : Bool :=
  c = '\n' || c = '\r' || c = '\u0085' || c = '\u2028' || c = '\u2029'

/-- The blanks within a line. -/
def isBlank (c : Char) : Bool :=
  c = ' ' || c = '\t'

/-- The characters between words. -/
def isGap (c : Char) : Bool :=
  isBlank c || isBreak c

/-- The characters of names: ASCII letters, digits, the dash and the underscore. -/
def isNameChar (c : Char) : Bool :=
  c.isAlphanum || c = '-' || c = '_'

/-- The characters that may stand in a text: no controls but the tab and line breaks, and no
noncharacters at the end of the first plane. -/
def isAllowed (c : Char) : Bool :=
  let n := c.toNat
  n = 0x09 || n = 0x0A || n = 0x0D || (0x20 ≤ n && n ≤ 0x7E) || n = 0x85 ||
    (0xA0 ≤ n && n ≤ 0xFFFD) || 0x10000 ≤ n

/-- The mark that may stand at the beginning of a text to tell the order of its bytes. -/
def orderMark : Char := '\uFEFF'

/-- A line break as it is kept: all but the two separators of Unicode become a line feed. -/
def keptBreak (c : Char) : Char :=
  if c = '\r' ∨ c = '\u0085' then '\n' else c

/-- The cells of characters that begin at a place. -/
def locate (line column : Nat) : List Char → List Cell
  | [] => []
  | '\r' :: '\n' :: cs => ⟨'\n', line, column⟩ :: locate (line + 1) 0 cs
  | c :: cs =>
    if isBreak c then ⟨keptBreak c, line, column⟩ :: locate (line + 1) 0 cs
    else ⟨c, line, column⟩ :: locate line (column + 1) cs

/-- The list without its first element if that is `a`. -/
def dropHead {α : Type} (p : α → Bool) : List α → List α
  | [] => []
  | a :: as => if p a then as else a :: as

/-- The cells of a text, if all of its characters are allowed. A mark of the byte order is left out,
and so is a second one, which still takes up a column. -/
def cells? (text : String) : Option (List Cell) :=
  if text.toList.all isAllowed then
    some (dropHead (·.char = orderMark) (locate 0 0 (dropHead (· = orderMark) text.toList)))
  else none

namespace Cell

/-- Whether the text is at its end or goes on with a character for which `p` holds. -/
def endOr (p : Char → Bool) : List Cell → Bool
  | [] => true
  | c :: _ => p c.char

/-- Whether the next character is one for which `p` holds. -/
def next (p : Char → Bool) : List Cell → Bool
  | [] => false
  | c :: _ => p c.char

/-- The characters for which `p` holds up to the first other one, and the text from there on. -/
def span (p : Char → Bool) (cells : List Cell) : List Char × List Cell :=
  ((cells.takeWhile (p ·.char)).map (·.char), cells.dropWhile (p ·.char))

theorem length_span_le (p : Char → Bool) (cells : List Cell) :
    (span p cells).2.length ≤ cells.length :=
  (List.dropWhile_sublist _).length_le

/-- The text after the blanks in front of it. -/
def skipBlanks (cells : List Cell) : List Cell :=
  cells.dropWhile (isBlank ·.char)

/-- Whether three characters `mark` stand alone at the start of a line. -/
def isMarker (mark : Char) : List Cell → Bool
  | a :: b :: c :: rest =>
    a.column = 0 && a.char = mark && b.char = mark && c.char = mark && endOr isGap rest
  | _ => false

/-- Whether the start or the end of a document is marked here. -/
def atMarker (cells : List Cell) : Bool :=
  isMarker '-' cells || isMarker '.' cells

/-- The text after the rest of a line that may hold a comment and nothing else. -/
def endLine? (cells : List Cell) : Option (List Cell) :=
  let cells := skipBlanks cells
  let cells := if next (· = '#') cells then cells.dropWhile (!isBreak ·.char) else cells
  match cells with
  | [] => some []
  | c :: rest => if isBreak c.char then some rest else none

end Cell
end ClusterPlan.Yaml
