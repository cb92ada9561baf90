import ClusterPlan.Yaml.Quoted
import ClusterPlan.Yaml.Token

/-!
# Names, tags and directives

Anchors and aliases are names. A tag is written in full between angle brackets, or as a handle and
what follows the text that the handle is short for. Directives stand before a document and say which
version of the language it uses and what handles mean.
-/

namespace ClusterPlan.Yaml

namespace Property

/-- The characters that may follow a name besides gaps. -/
def endsName (c : Char) : Bool :=
  isGap c || "?:,]\x7d%@`".contains c

/-- The name after an ampersand or an asterisk. -/
def name? (cells : List Cell) : Option (String × List Cell) :=
  let (name, rest) := Cell.span isNameChar cells
  if name ≠ [] ∧ Cell.endOr endsName rest then some (String.ofList name, rest) else none

/-! ### Tags -/

/-- The characters of tags, without the percent sign that introduces others by their bytes. -/
def isTagChar (full : Bool) (c : Char) : Bool :=
  isNameChar c || ";/?:@&=+$.!~*'()".contains c || (full && ",[]".contains c)

/-- The byte that a percent sign and two hexadecimal digits write. -/
def byte? : List Cell → Option (Nat × List Cell)
  | p :: a :: b :: rest =>
    if p.char = '%' then (Hexadecimal.number? [a.char, b.char]).map fun n => (n, rest) else none
  | _ => none

/-- The number of bytes of a character that begins with a byte, and the part of the byte that
belongs to the number of the character. -/
def leadByte? (n : Nat) : Option (Nat × Nat) :=
  if n < 0x80 then some (1, n)
  else if 0xC0 ≤ n ∧ n < 0xE0 then some (2, n % 0x20)
  else if 0xE0 ≤ n ∧ n < 0xF0 then some (3, n % 0x10)
  else if 0xF0 ≤ n ∧ n < 0xF8 then some (4, n % 0x08)
  else none

/-- The number of a character of which `count` bytes are still to come. -/
def moreBytes? (n : Nat) (cells : List Cell) : (count : Nat) → Option (Nat × List Cell)
  | 0 => some (n, cells)
  | count + 1 =>
    match byte? cells with
    | none => none
    | some (b, rest) =>
      if 0x80 ≤ b ∧ b < 0xC0 then moreBytes? (n * 0x40 + b % 0x40) rest count else none

/-- The character that the bytes here write; bytes that write none stand for a replacement. -/
def escapedChar? (cells : List Cell) : Option (Char × List Cell) := do
  let (b, rest) ← byte? cells
  let (count, n) ← leadByte? b
  let (n, rest) ← moreBytes? n rest (count - 1)
  let written := (Quoted.charOf? n).filter fun c => c.utf8Size = count
  return (written.getD '\uFFFD', rest)

/-- The characters of a tag and the text after them. -/
def tagChars? (full : Bool) (cells : List Cell) : Option (List Char × List Cell) :=
  match cells with
  | [] => some ([], [])
  | c :: tail =>
    if isTagChar full c.char then
      (tagChars? full tail).map fun (cs, after) => (c.char :: cs, after)
    else if c.char = '%' then
      match escapedChar? (c :: tail) with
      | none => none
      | some (e, rest) =>
        if _h : rest.length < (c :: tail).length then
          (tagChars? full rest).map fun (cs, after) => (e :: cs, after)
        else none
    else some ([], c :: tail)
termination_by cells.length
decreasing_by
  · simp
  · exact _h

/-- The text of a tag, which ends at a character zero. -/
def tagText (cs : List Char) : String :=
  String.ofList (cs.takeWhile (· ≠ '\x00'))

/-- A tag, or a part of one, that is not empty. -/
def tagPart? (full : Bool) (cells : List Cell) : Option (List Char × List Cell) :=
  (tagChars? full cells).filter (·.1 ≠ [])

/-- The handle at the beginning of a tag and the text after it: an exclamation mark, and perhaps a
name and a second one. -/
def handle? (cells : List Cell) : Option (List Char × List Cell) :=
  match cells with
  | [] => none
  | c :: rest =>
    if c.char = '!' then
      let (name, rest) := Cell.span isNameChar rest
      match rest with
      | [] => some ('!' :: name, [])
      | d :: after =>
        if d.char = '!' then some ('!' :: name ++ ['!'], after) else some ('!' :: name, rest)
    else none

/-- Whether a handle is the one that stands for itself, or has an exclamation mark at its end. -/
def isClosed (handle : List Char) : Bool :=
  1 < handle.length && handle.getLast? = some '!'

/-- The tag that begins here: its handle, empty if it is written in full, and the rest of it. -/
def tagParts? (cells : List Cell) : Option (String × String × List Cell) :=
  if Cell.next (· = '<') cells.tail then do
    let (cs, rest) ← tagPart? true (cells.drop 2)
    if Cell.next (· = '>') rest then some ("", tagText cs, rest.tail) else none
  else do
    let (handle, rest) ← handle? cells
    if isClosed handle then
      let (cs, rest) ← tagPart? false rest
      return (String.ofList handle, tagText cs, rest)
    else
      let (cs, rest) ← tagChars? false rest
      let text := tagText (handle.tail ++ cs)
      return if text = "" then ("", "!", rest) else ("!", text, rest)

/-- The token of the tag that begins here, and the text after it. -/
def tag? (flow : Bool) (cells : List Cell) : Option (Token × List Cell) := do
  let (handle, tag, rest) ← tagParts? cells
  if Cell.endOr (fun c => isGap c || flow && c = ',') rest then some (.tag handle tag, rest)
  else none

/-! ### Directives -/

/-- A number of at most nine digits. -/
def versionNumber? (cells : List Cell) : Option (Nat × List Cell) :=
  let (digits, rest) := Cell.span Char.isDigit cells
  if digits = [] ∨ 9 < digits.length then none
  else some (digits.foldl (fun n c => n * 10 + (c.toNat - '0'.toNat)) 0, rest)

/-- The version of the language, which is 1.1 or 1.2. -/
def version? (cells : List Cell) : Option (Token × List Cell) := do
  let (major, rest) ← versionNumber? (Cell.skipBlanks cells)
  if Cell.next (· = '.') rest then
    let (minor, rest) ← versionNumber? rest.tail
    if major = 1 ∧ (minor = 1 ∨ minor = 2) then some (.version, rest) else none
  else none

/-- A handle and what it is short for. -/
def tagHandle? (cells : List Cell) : Option (Token × List Cell) := do
  let (handle, rest) ← handle? (Cell.skipBlanks cells)
  if (handle = ['!'] ∨ isClosed handle) ∧ Cell.next isBlank rest then
    let (start, rest) ← tagPart? true (Cell.skipBlanks rest)
    if Cell.endOr isGap rest then
      some (.tagHandle (String.ofList handle) (tagText start), rest)
    else none
  else none

/-- The directive that begins here, and the text below it. -/
def directive? (cells : List Cell) : Option (Token × List Cell) := do
  let (name, rest) := Cell.span isNameChar cells.tail
  if ¬ Cell.endOr isGap rest then none
  else
    let (token, rest) ← if name = "YAML".toList then version? rest
      else if name = "TAG".toList then tagHandle? rest
      else none
    return (token, ← Cell.endLine? rest)

end Property
end ClusterPlan.Yaml
