import ClusterPlan.Yaml.Block
import ClusterPlan.Yaml.Plain
import ClusterPlan.Yaml.Property

/-!
# YAML tokens of a text

`Token.scan?` takes a text apart. Two things are not written down in it and are found on the way:
the block collections, which open where the text goes further in and close where it comes back, and
the keys of mappings, which are known as such only when a colon follows on the same line.
-/

namespace ClusterPlan.Yaml

/-- A place where a key may begin that has no question mark in front of it. -/
structure KeyStart where
  /-- The number of tokens before it. -/
  position : Nat
  /-- Whether a key must begin there, because the text is as far in as the collection around it. -/
  required : Bool
  line : Nat
  column : Nat
deriving Repr, DecidableEq

/-- What is known of a text up to a point. -/
structure Lexer where
  /-- The text from the point on. -/
  rest : List Cell
  /-- The tokens before it, the last one first. -/
  tokens : List Token
  /-- The number of tokens. -/
  count : Nat
  /-- The columns of the open block collections, the innermost first. -/
  columns : List Nat
  /-- Where the key of a colon may begin. -/
  key? : Option KeyStart
  /-- The same for the collections around each open flow collection, the innermost first. -/
  outerKeys : List (Option KeyStart)
  /-- Whether a key without a question mark may begin at the point. -/
  keyAllowed : Bool

namespace Lexer

/-- The beginning of a text. -/
def start (cells : List Cell) : Lexer where
  rest := cells
  tokens := []
  count := 0
  columns := []
  key? := none
  outerKeys := []
  keyAllowed := true

/-- Whether the point is in a flow collection. -/
def inFlow (s : Lexer) : Bool :=
  s.outerKeys ≠ []

/-- The column of the point. -/
def column (s : Lexer) : Nat :=
  s.rest.head?.elim 0 (·.column)

/-- The lexer with one more token. -/
def push (s : Lexer) (t : Token) : Lexer :=
  { s with tokens := t :: s.tokens, count := s.count + 1 }

/-- The lexer with a token inserted after the first `position` ones. -/
def insert (s : Lexer) (position : Nat) (t : Token) : Lexer :=
  { s with tokens := s.tokens.insertIdx (s.count - position) t, count := s.count + 1 }

/-! ### Block collections -/

/-- Closes the block collections for which `p` holds of their column, from the innermost one on. -/
def closeWhile (s : Lexer) (p : Nat → Bool) : Lexer :=
  if s.inFlow then s
  else
    let closed := (s.columns.takeWhile p).length
    { s with
      tokens := List.replicate closed .closeBlock ++ s.tokens
      count := s.count + closed
      columns := s.columns.drop closed }

/-- Closes the block collections that are further in than the point. -/
def closeInner (s : Lexer) : Lexer :=
  s.closeWhile (s.column < ·)

/-- Closes all block collections. -/
def closeAll (s : Lexer) : Lexer :=
  s.closeWhile fun _ => true

/-- Opens a block collection at a column, if that is further in than the innermost one; its token
goes after the first `position` ones. -/
def openBlock (s : Lexer) (column position : Nat) (t : Token) : Lexer :=
  if ¬ s.inFlow ∧ s.columns.head?.all (· < column) then
    { s with columns := column :: s.columns }.insert position t
  else s

/-! ### Keys -/

/-- The lexer without the place where a key may begin; it must not be one where a key must. -/
def dropKey? (s : Lexer) : Option Lexer :=
  if s.key?.any (·.required) then none else some { s with key? := none }

/-- Notes that a key may begin at the point. -/
def markKey? (s : Lexer) : Option Lexer :=
  match s.keyAllowed, s.rest with
  | true, c :: _ => do
    let required := ¬ s.inFlow ∧ s.columns.head? = some c.column
    let s ← s.dropKey?
    let key := { position := s.count, required, line := c.line, column := c.column }
    return { s with key? := some key }
  | _, _ => some s

/-- The greatest number of characters in a key without a question mark. -/
def maxKeyLength : Nat := 1024

/-- The place where a key may begin, unless that is too far from a cell; nothing if a key must begin
there. -/
def recent? (c : Cell) : Option KeyStart → Option (Option KeyStart)
  | none => some none
  | some k =>
    if k.line = c.line ∧ c.column ≤ k.column + maxKeyLength then some (some k)
    else if k.required then none
    else some none

/-- The lexer without the places where keys may begin that are too far from the point. -/
def dropOldKeys? (s : Lexer) : Option Lexer :=
  match s.rest with
  | [] => some s
  | c :: _ => do
    let key? ← recent? c s.key?
    let outerKeys ← s.outerKeys.mapM (recent? c)
    return { s with key?, outerKeys }

/-! ### The tokens -/

/-- What precedes the next token: blanks, comments and line breaks, after which a key may begin.
Tabs do not precede a token that may be a key of a block mapping. -/
def skip (flow inComment keyAllowed : Bool) : List Cell → Bool × List Cell
  | [] => (keyAllowed, [])
  | c :: rest =>
    if isBreak c.char then skip flow false (keyAllowed || !flow) rest
    else if inComment then skip flow true keyAllowed rest
    else if c.char = ' ' || c.char = '\t' && (flow || !keyAllowed) then
      skip flow false keyAllowed rest
    else if c.char = '#' then skip flow true keyAllowed rest
    else (keyAllowed, c :: rest)

/-- The lexer at its next token. -/
def advance (s : Lexer) : Lexer :=
  let (keyAllowed, rest) := skip s.inFlow false s.keyAllowed s.rest
  { s with keyAllowed, rest }

/-- The lexer after a token that takes up some cells. -/
def take (s : Lexer) (length : Nat) (t : Token) : Lexer :=
  { s.push t with rest := s.rest.drop length }

/-- The lexer after a token that a reader found at the point. -/
def takeRead? (s : Lexer) (read : Option (Token × List Cell)) : Option Lexer :=
  read.map fun (t, rest) => { s.push t with rest }

/-- The end of the text. -/
def finish? (s : Lexer) : Option Lexer :=
  s.closeAll.dropKey?

/-- A directive, which stands outside of all collections. -/
def directive? (s : Lexer) : Option Lexer := do
  let s ← s.closeAll.dropKey?
  { s with keyAllowed := false }.takeRead? (Property.directive? s.rest)

/-- The mark of the start or the end of a document. -/
def marker? (s : Lexer) (t : Token) : Option Lexer := do
  let s ← s.closeAll.dropKey?
  return { s with keyAllowed := false }.take 3 t

/-- The beginning of a flow collection. -/
def openFlow? (s : Lexer) (t : Token) : Option Lexer := do
  let s ← s.markKey?
  return { s with key? := none, outerKeys := s.key? :: s.outerKeys, keyAllowed := true }.take 1 t

/-- The end of a flow collection. -/
def closeFlow? (s : Lexer) (t : Token) : Option Lexer := do
  let s ← s.dropKey?
  let s := match s.outerKeys with
    | [] => s
    | key? :: outerKeys => { s with key?, outerKeys }
  return { s with keyAllowed := false }.take 1 t

/-- A comma. -/
def comma? (s : Lexer) : Option Lexer := do
  let s ← s.dropKey?
  return { s with keyAllowed := true }.take 1 .comma

/-- Opens a block collection at the point, where a key may begin. -/
def openHere? (s : Lexer) (t : Token) : Option Lexer :=
  if s.inFlow then some s
  else if s.keyAllowed then some (s.openBlock s.column s.count t)
  else none

/-- The dash of an item. -/
def item? (s : Lexer) : Option Lexer := do
  let s ← s.openHere? .openBlockList
  let s ← s.dropKey?
  return { s with keyAllowed := true }.take 1 .item

/-- The question mark of a key. -/
def keyMark? (s : Lexer) : Option Lexer := do
  let s ← s.openHere? .openBlockMapping
  let s ← s.dropKey?
  return { s with keyAllowed := !s.inFlow }.take 1 .key

/-- The colon of a value: its key begins at the place that was noted, or is empty. -/
def value? (s : Lexer) : Option Lexer :=
  match s.key? with
  | some k =>
    let s := (s.insert k.position .key).openBlock k.column k.position .openBlockMapping
    some ({ s with key? := none, keyAllowed := false }.take 1 .value)
  | none => do
    let s ← s.openHere? .openBlockMapping
    return { s with keyAllowed := !s.inFlow }.take 1 .value

/-- An alias, an anchor or a tag. -/
def property? (s : Lexer) (read : List Cell → Option (Token × List Cell)) : Option Lexer := do
  let s ← s.markKey?
  { s with keyAllowed := false }.takeRead? (read s.rest)

/-- A name after an ampersand or an asterisk. -/
def readName (token : String → Token) (cells : List Cell) : Option (Token × List Cell) :=
  (Property.name? cells.tail).map fun (name, rest) => (token name, rest)

/-- A block scalar. -/
def block? (s : Lexer) (style : ScalarStyle) : Option Lexer := do
  let s ← s.dropKey?
  let (text, rest) ← Block.read? (style = .literal) s.columns.head? s.rest.tail
  return { s.push (.scalar style (String.ofList text)) with keyAllowed := true, rest }

/-- A quoted scalar. -/
def quoted? (s : Lexer) (style : ScalarStyle)
    (read : List Cell → Option (List Char × List Cell)) : Option Lexer := do
  let s ← s.markKey?
  let (text, rest) ← read s.rest.tail
  return { s.push (.scalar style (String.ofList text)) with keyAllowed := false, rest }

/-- A plain scalar; after a line break a key may begin. -/
def plain? (s : Lexer) : Option Lexer := do
  let s ← s.markKey?
  let (text, folded, rest) ← Plain.read? s.inFlow (s.columns.head?.elim 0 (· + 1)) s.rest
  return { s.push (.scalar .plain (String.ofList text)) with keyAllowed := folded, rest }

/-- The characters that begin something else than a plain scalar. -/
def isIndicator (c : Char) : Bool :=
  "-?:,[]\x7b\x7d#&*!|>'\"%@`".contains c

/-- Whether a plain scalar begins with a character that `rest` follows. -/
def startsPlain (flow : Bool) (c : Char) (rest : List Cell) : Bool :=
  !(isGap c || isIndicator c) || c = '-' && !Cell.next isBlank rest ||
    !flow && (c = '?' || c = ':') && !Cell.endOr isGap rest

/-- The lexer after the token that begins with a cell, which `rest` follows. -/
def token? (s : Lexer) (c : Cell) (rest : List Cell) : Option Lexer :=
  let flow := s.inFlow
  let alone := Cell.endOr isGap rest
  if c.column = 0 && c.char = '%' then s.directive?
  else if Cell.isMarker '-' s.rest then s.marker? .documentStart
  else if Cell.isMarker '.' s.rest then s.marker? .documentEnd
  else match c.char with
    | '[' => s.openFlow? .openFlowList
    | '\x7b' => s.openFlow? .openFlowMapping
    | ']' => s.closeFlow? .closeFlowList
    | '\x7d' => s.closeFlow? .closeFlowMapping
    | ',' => s.comma?
    | '*' => s.property? (readName .alias)
    | '&' => s.property? (readName .anchor)
    | '!' => s.property? (Property.tag? flow)
    | '\'' => s.quoted? .singleQuoted Quoted.single?
    | '"' => s.quoted? .doubleQuoted Quoted.double?
    | ch =>
      if ch = '-' && alone then s.item?
      else if ch = '?' && (flow || alone) then s.keyMark?
      else if ch = ':' && (flow || alone) then s.value?
      else if ch = '|' && !flow then s.block? .literal
      else if ch = '>' && !flow then s.block? .folded
      else if startsPlain flow ch rest then s.plain?
      else none

/-- The lexer at the end of the text. Every token takes up at least one cell, so a token that took
up none is refused. -/
def run? (s : Lexer) : Option Lexer :=
  let s' := s.advance
  match s'.rest with
  | [] => s'.finish?
  | c :: rest =>
    match (s'.dropOldKeys?.map closeInner).bind fun s => s.token? c rest with
    | none => none
    | some next =>
      if _h : next.rest.length < s.rest.length then next.run? else none
termination_by s.rest.length

end Lexer

/-- The tokens of a text. -/
def Token.scan? (cells : List Cell) : Option (List Token) :=
  (Lexer.start cells).run?.map (·.tokens.reverse)

end ClusterPlan.Yaml
