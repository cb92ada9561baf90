import ClusterPlan.Text.Decimal
import ClusterPlan.Text.Hexadecimal
import ClusterPlan.Tree.Basic
import ClusterPlan.Yaml.Cell
import ClusterPlan.Yaml.Meaning
import ClusterPlan.Yaml.Token

/-!
# Writing YAML

`Yaml.write` writes a tree in block style: each item and field on a line of its own, the items of a
list in a record no further in than the record, other fields two blanks further in. A text is
written plain if it then reads back as itself, else between single quotes, or between double quotes
if it has characters that cannot be seen; a text of several lines becomes a literal block.
-/

namespace ClusterPlan.Yaml

/-! ### The style of a text -/

/-- The characters that are written as they are. -/
def isPrintable (c : Char) : Bool :=
  let n := c.toNat
  n = 0x0A || (0x20 ≤ n && n ≤ 0x7E) || (0xA0 ≤ n && n ≤ 0xFFFD && n ≠ 0xFEFF) || 0x10000 ≤ n

/-- Whether two neighbours in a text have a property. -/
def hasNeighbours (p : Char → Char → Bool) : List Char → Bool
  | a :: b :: rest => p a b || hasNeighbours p (b :: rest)
  | _ => false

namespace Style

/-- Whether only double quotes can hold a text. -/
def needsEscapes (cs : List Char) : Bool :=
  cs.any (!isPrintable ·) || hasNeighbours (fun a b => a = ' ' && isBreak b) cs

/-- Whether a character opens or closes the text with a blank or a line break. -/
def isEdge (c : Option Char) : Bool :=
  c.any fun c => c = ' ' || isBreak c

/-- Whether what follows a character is a gap or the end of the text. -/
def endsWord (rest : List Char) : Bool :=
  rest.head?.all isGap

/-- Whether a text begins like something else than a plain scalar. -/
def startsOtherwise : List Char → Bool
  | [] => false
  | c :: rest =>
    "#,[]\x7b\x7d&*!|>'\"%@`".toList.contains c || (c = '?' || c = ':' || c = '-') && endsWord rest ||
      (c = '-' || c = '.') && rest.take 2 = [c, c]

/-- Whether a plain scalar would end within a text: at a comment, or at a colon that ends a word. -/
def endsWithin : List Char → Bool
  | a :: b :: rest =>
    b = ':' && endsWord rest || b = '#' && isGap a || endsWithin (b :: rest)
  | _ => false

/-- Whether a text can be a plain scalar. -/
def allowsPlain (cs : List Char) : Bool :=
  !(cs.any isBreak || needsEscapes cs || isEdge cs.head? || isEdge cs.getLast? ||
    startsOtherwise cs || endsWithin cs)

/-- Whether a text can stand between single quotes. -/
def allowsSingle (cs : List Char) : Bool :=
  !(needsEscapes cs || hasNeighbours (fun a b => isBreak a && b = ' ') cs)

/-- Whether a text can be a literal block. -/
def allowsLiteral (cs : List Char) : Bool :=
  !(needsEscapes cs || cs.getLast? = some ' ')

/-- The style in which a text is written. -/
def ofText (text : String) : ScalarStyle :=
  let cs := text.toList
  if cs.contains '\n' then if allowsLiteral cs then .literal else .doubleQuoted
  else if Meaning.isText text && allowsPlain cs then .plain
  else if allowsSingle cs then .singleQuoted
  else .doubleQuoted

end Style

/-! ### Scalars -/

/-- Blanks up to a column. -/
def blanks (column : Nat) : List Char :=
  List.replicate column ' '

/-- A text whose lines after the first begin at a column; breaks that follow each other have nothing
between them. -/
def indented (column : Nat) (atStart : Bool) : List Char → List Char
  | [] => []
  | c :: rest =>
    if isBreak c then c :: indented column true rest
    else if atStart then blanks column ++ c :: indented column false rest
    else c :: indented column false rest

/-- A text between single quotes, where a quote is written twice. -/
def singleQuoted (column : Nat) (cs : List Char) : List Char :=
  let body := indented column false (cs.flatMap fun c => if c = '\'' then ['\'', '\''] else [c])
  '\'' :: body ++ (if cs.getLast?.any isBreak then blanks column else []) ++ ['\'']

/-- The last `count` hexadecimal digits of a number. -/
def hexDigits (n : Nat) : (count : Nat) → List Char
  | 0 => []
  | count + 1 => hexDigits (n / 16) count ++ [Hexadecimal.upperDigit (n % 16)]

/-- The letter that stands for a character after a backslash. -/
def escapeLetter? : Char → Option Char
  | '\x00' => some '0'
  | '\x07' => some 'a'
  | '\x08' => some 'b'
  | '\t' => some 't'
  | '\n' => some 'n'
  | '\x0b' => some 'v'
  | '\x0c' => some 'f'
  | '\r' => some 'r'
  | '\x1b' => some 'e'
  | '"' => some '"'
  | '\\' => some '\\'
  | '\u0085' => some 'N'
  | '\u2028' => some 'L'
  | '\u2029' => some 'P'
  | _ => none

/-- A character between double quotes. -/
def escaped (c : Char) : List Char :=
  match escapeLetter? c with
  | some letter => ['\\', letter]
  | none =>
    if isPrintable c then [c]
    else if c.toNat ≤ 0xFF then '\\' :: 'x' :: hexDigits c.toNat 2
    else if c.toNat ≤ 0xFFFF then '\\' :: 'u' :: hexDigits c.toNat 4
    else '\\' :: 'U' :: hexDigits c.toNat 8

/-- A text between double quotes. -/
def doubleQuoted (cs : List Char) : List Char :=
  '"' :: cs.flatMap escaped ++ ['"']

/-- What the header of a literal block says: the indentation if the text begins with a blank or a
line break, and how the text ends. -/
def literalHeader (cs : List Char) : List Char :=
  let hint := if Style.isEdge cs.head? then ['2'] else []
  let chomping := match cs.reverse with
    | [] => ['-']
    | last :: before =>
      if !isBreak last then ['-']
      else if before.head?.all isBreak then ['+']
      else []
  '|' :: hint ++ chomping

/-- The lines of a literal block, which begin at a column, with the end of the last one. -/
def literal (column : Nat) (cs : List Char) : List Char :=
  literalHeader cs ++ '\n' :: indented column true cs ++
    if cs.getLast?.any isBreak then [] else ['\n']

/-- A text that stands at the end of a line, with the end of the line. Further lines of it begin at
a column. -/
def writeText (column : Nat) (text : String) : List Char :=
  let cs := text.toList
  match Style.ofText text with
  | .plain => cs ++ ['\n']
  | .singleQuoted => singleQuoted column cs ++ ['\n']
  | .doubleQuoted => doubleQuoted cs ++ ['\n']
  | .literal | .folded => literal column cs

/-- The name of a field. -/
def writeName (name : String) : List Char :=
  let cs := name.toList
  if Meaning.isText name && Style.allowsPlain cs then cs
  else if Style.allowsSingle cs && !cs.any isBreak then singleQuoted 0 cs
  else doubleQuoted cs

/-! ### Trees -/

mutual

/-- A value after the colon of a field of a record that begins at a column. -/
def writeValue (column : Nat) : Tree → List Char
  | .null => " null\n".toList
  | .bool true => " true\n".toList
  | .bool false => " false\n".toList
  | .int value => ' ' :: Decimal.integer value ++ ['\n']
  | .real text => ' ' :: text.toList ++ ['\n']
  | .text value => ' ' :: writeText (column + 2) value
  | .list [] => " []\n".toList
  | .list (item :: items) => '\n' :: writeItems column (item :: items)
  | .record [] => " \x7b\x7d\n".toList
  | .record (field :: fields) => '\n' :: writeFields (column + 2) (field :: fields)

/-- An item after the dash, which stands at a column. -/
def writeItem (column : Nat) : Tree → List Char
  | .list (item :: items) =>
    '-' :: ' ' :: writeItem (column + 2) item ++ writeItems (column + 2) items
  | .record ((name, value) :: fields) =>
    writeName name ++ ':' :: writeValue (column + 2) value ++ writeFields (column + 2) fields
  | .null => "null\n".toList
  | .bool true => "true\n".toList
  | .bool false => "false\n".toList
  | .int value => Decimal.integer value ++ ['\n']
  | .real text => text.toList ++ ['\n']
  | .text value => writeText (column + 2) value
  | .list [] => "[]\n".toList
  | .record [] => "\x7b\x7d\n".toList

/-- Items whose dashes stand at a column. -/
def writeItems (column : Nat) : List Tree → List Char
  | [] => []
  | item :: items =>
    blanks column ++ '-' :: ' ' :: writeItem column item ++ writeItems column items

/-- Fields that begin at a column. -/
def writeFields (column : Nat) : List (String × Tree) → List Char
  | [] => []
  | (name, value) :: fields =>
    blanks column ++ writeName name ++ ':' :: writeValue column value ++ writeFields column fields

end

/-- The text that writes a tree. -/
def write (t : Tree) : String :=
  String.ofList <|
    match t with
    | .list (item :: items) => writeItems 0 (item :: items)
    | .record (field :: fields) => writeFields 0 (field :: fields)
    | t => writeItem 0 t

end ClusterPlan.Yaml
