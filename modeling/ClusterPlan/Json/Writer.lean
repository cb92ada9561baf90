import ClusterPlan.Text.Decimal
import ClusterPlan.Text.Hexadecimal
import ClusterPlan.Tree.Basic

/-!
# Writing JSON

`Json.write` writes a tree over several lines: each item and field on a line of its own, two blanks
further in than the list or record it belongs to. Empty lists and records stay on one line.
-/

namespace ClusterPlan.Json

/-- A character as it stands between quotes: controls, quotes and backslashes after a backslash. -/
def escaped (c : Char) : List Char :=
  match c with
  | '"' => ['\\', '"']
  | '\\' => ['\\', '\\']
  | '\x08' => ['\\', 'b']
  | '\x0c' => ['\\', 'f']
  | '\n' => ['\\', 'n']
  | '\r' => ['\\', 'r']
  | '\t' => ['\\', 't']
  | _ =>
    if c.toNat < 0x20 then
      let (high, low) := (c.toNat / 16, c.toNat % 16)
      ['\\', 'u', '0', '0', Hexadecimal.lowerDigit high, Hexadecimal.lowerDigit low]
    else [c]

/-- A text between quotes. -/
def quote (text : String) : List Char :=
  '"' :: text.toList.flatMap escaped ++ ['"']

/-- The end of a line, and the blanks in front of what is `depth` levels in. -/
def newLine (depth : Nat) : List Char :=
  '\n' :: List.replicate (2 * depth) ' '

mutual

/-- A tree that stands `depth` levels in. -/
def writeTree (depth : Nat) : Tree → List Char
  | .null => "null".toList
  | .bool true => "true".toList
  | .bool false => "false".toList
  | .int value => Decimal.integer value
  | .real text => text.toList
  | .text value => quote value
  | .list [] => ['[', ']']
  | .list (item :: items) =>
    '[' :: newLine (depth + 1) ++ writeTree (depth + 1) item ++ writeItems (depth + 1) items ++
      newLine depth ++ [']']
  | .record [] => ['\x7b', '\x7d']
  | .record ((name, value) :: fields) =>
    '\x7b' :: newLine (depth + 1) ++ quote name ++ [':', ' '] ++ writeTree (depth + 1) value ++
      writeFields (depth + 1) fields ++ newLine depth ++ ['\x7d']

/-- The items of a list after the first one. -/
def writeItems (depth : Nat) : List Tree → List Char
  | [] => []
  | item :: items => ',' :: newLine depth ++ writeTree depth item ++ writeItems depth items

/-- The fields of a record after the first one. -/
def writeFields (depth : Nat) : List (String × Tree) → List Char
  | [] => []
  | (name, value) :: fields =>
    ',' :: newLine depth ++ quote name ++ [':', ' '] ++ writeTree depth value ++
      writeFields depth fields

end

/-- The text that writes a tree. -/
def write (t : Tree) : String :=
  String.ofList (writeTree 0 t)

end ClusterPlan.Json
