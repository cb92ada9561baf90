import ClusterPlan.Yaml.Lexer
import ClusterPlan.Yaml.Node

/-!
# Reading YAML

`Document.read?` gives the node of the document that a text holds. A text without any document is
read as well, one with several documents is not.
-/

namespace ClusterPlan.Yaml

namespace Document

/-- The tokens that are still to be read, and the names of the anchors before them. -/
structure Source where
  tokens : List Token
  /-- The last number that each name of an anchor was given. -/
  names : List (String × Nat)

namespace Source

/-- Whether the next token is one of some. -/
def nextIs (s : Source) (ts : List Token) : Bool :=
  s.tokens.head?.any (· ∈ ts)

/-- Whether the next token is one of some, or there is none. -/
def endOrNextIs (s : Source) (ts : List Token) : Bool :=
  s.tokens.head?.all (· ∈ ts)

/-- The source after its next token. -/
def next (s : Source) : Source :=
  { s with tokens := s.tokens.tail }

/-- The source after a token, if that is the next one. -/
def skip? (s : Source) (t : Token) : Option Source :=
  if s.nextIs [t] then some s.next else none

/-- Numbers an anchor by how many names there are; a name used again takes the number over. -/
def addName (s : Source) (name : String) : Nat × Source :=
  let number := s.names.length
  let names :=
    if s.names.any (·.1 = name) then
      s.names.map fun entry => if entry.1 = name then (name, number) else entry
    else s.names ++ [(name, number)]
  (number, { s with names })

/-- The anchor that stands next. -/
def takeAnchor (s : Source) : Option Nat × Source :=
  match s.tokens with
  | .anchor name :: _ =>
    let (number, s) := s.next.addName name
    (some number, s)
  | _ => (none, s)

/-- The tag that stands next, if its handle is known. -/
def takeTag? (handles : List (String × String)) (s : Source) : Option (Option String × Source) :=
  match s.tokens with
  | .tag "" rest :: _ => some (some rest, s.next)
  | .tag handle rest :: _ => (handles.lookup handle).map fun start => (some (start ++ rest), s.next)
  | _ => some (none, s)

/-- The anchor and the tag that stand next, in either order. -/
def takeProperties? (handles : List (String × String)) (s : Source) :
    Option (Option Nat × Option String × Source) := do
  let (before?, s) := s.takeAnchor
  let (tag?, s) ← s.takeTag? handles
  let (after?, s) := if before?.isNone ∧ tag?.isSome then s.takeAnchor else (none, s)
  return (before?.or after?, tag?, s)

end Source

/-- Where a node stands. -/
inductive Place where
  /-- In a flow collection. -/
  | flow
  /-- In a block list, or at the top. -/
  | block
  /-- In a block mapping, where a list need not be further in than the mapping. -/
  | field
deriving Repr, DecidableEq

/-- The tag of a scalar; a lone exclamation mark says nothing more than that it is a scalar. -/
def scalarTag (tag? : Option String) : Option String :=
  tag?.filter (· ≠ "!")

mutual

/-- The node that begins at the next token, where `fuel` bounds the number of steps. -/
def node? (handles : List (String × String)) (place : Place) (s : Source) :
    (fuel : Nat) → Option (Node × Source)
  | 0 => none
  | fuel + 1 =>
    match s.tokens with
    | .alias name :: _ => (s.names.lookup name).map fun number => (.alias number, s.next)
    | _ =>
      match s.takeProperties? handles with
      | none => none
      | some (anchor?, tag?, s) =>
        match s.tokens with
        | .scalar style text :: _ =>
          some (.scalar anchor? { style, text, tag? := scalarTag tag? }, s.next)
        | .openFlowList :: _ =>
          (flowItems? handles true s.next fuel).map fun (items, s) => (.list anchor? items, s)
        | .openFlowMapping :: _ =>
          (flowFields? handles true s.next fuel).map fun (fields, s) => (.mapping anchor? fields, s)
        | t :: _ =>
          if place ≠ .flow ∧ t = .openBlockList then
            (items? handles s.next fuel).map fun (items, s) => (.list anchor? items, s)
          else if place ≠ .flow ∧ t = .openBlockMapping then
            (fields? handles s.next fuel).map fun (fields, s) => (.mapping anchor? fields, s)
          else if place = .field ∧ t = .item then
            (openItems? handles s fuel).map fun (items, s) => (.list anchor? items, s)
          else if anchor?.isSome ∨ tag?.isSome then
            some (.scalar anchor? { style := .plain, text := "", tag? }, s)
          else none
        | [] =>
          if anchor?.isSome ∨ tag?.isSome then
            some (.scalar anchor? { style := .plain, text := "", tag? }, s)
          else none

/-- The node that begins at the next token, or an empty one if that is one of some. -/
def nodeOr? (handles : List (String × String)) (place : Place) (stops : List Token) (s : Source) :
    (fuel : Nat) → Option (Node × Source)
  | 0 => none
  | fuel + 1 => if s.nextIs stops then some (.empty, s) else node? handles place s fuel

/-- The items of a block list up to its end. -/
def items? (handles : List (String × String)) (s : Source) :
    (fuel : Nat) → Option (List Node × Source)
  | 0 => none
  | fuel + 1 =>
    match s.tokens with
    | .closeBlock :: _ => some ([], s.next)
    | .item :: _ =>
      match nodeOr? handles .block [.item, .closeBlock] s.next fuel with
      | none => none
      | some (n, s) => (items? handles s fuel).map fun (ns, s) => (n :: ns, s)
    | _ => none

/-- The items of a list that is not further in than the mapping around it. -/
def openItems? (handles : List (String × String)) (s : Source) :
    (fuel : Nat) → Option (List Node × Source)
  | 0 => none
  | fuel + 1 =>
    match s.tokens with
    | .item :: _ =>
      match nodeOr? handles .block [.item, .key, .value, .closeBlock] s.next fuel with
      | none => none
      | some (n, s) => (openItems? handles s fuel).map fun (ns, s) => (n :: ns, s)
    | _ => some ([], s)

/-- The fields of a block mapping up to its end. -/
def fields? (handles : List (String × String)) (s : Source) :
    (fuel : Nat) → Option (List (Node × Node) × Source)
  | 0 => none
  | fuel + 1 =>
    match s.tokens with
    | .closeBlock :: _ => some ([], s.next)
    | .key :: _ =>
      match nodeOr? handles .field [.key, .value, .closeBlock] s.next fuel with
      | none => none
      | some (key, s) =>
        match blockValue? handles s fuel with
        | none => none
        | some (value, s) => (fields? handles s fuel).map fun (rest, s) => ((key, value) :: rest, s)
    | _ => none

/-- The value after a key of a block mapping. -/
def blockValue? (handles : List (String × String)) (s : Source) :
    (fuel : Nat) → Option (Node × Source)
  | 0 => none
  | fuel + 1 =>
    match s.tokens with
    | .value :: _ => nodeOr? handles .field [.key, .value, .closeBlock] s.next fuel
    | _ => some (.empty, s)

/-- The value after a key in a flow collection with an end. -/
def flowValue? (handles : List (String × String)) (close : Token) (s : Source) :
    (fuel : Nat) → Option (Node × Source)
  | 0 => none
  | fuel + 1 =>
    match s.tokens with
    | .value :: _ => nodeOr? handles .flow [.comma, close] s.next fuel
    | _ => some (.empty, s)

/-- A key and its value in a flow collection with an end. -/
def flowPair? (handles : List (String × String)) (close : Token) (s : Source) :
    (fuel : Nat) → Option (Node × Node × Source)
  | 0 => none
  | fuel + 1 =>
    match nodeOr? handles .flow [.value, .comma, close] s fuel with
    | none => none
    | some (key, s) => (flowValue? handles close s fuel).map fun (value, s) => (key, value, s)

/-- The items of a flow list up to its end, with a comma in front of all but the first. A pair is a
mapping of its own. -/
def flowItems? (handles : List (String × String)) (first : Bool) (s : Source) :
    (fuel : Nat) → Option (List Node × Source)
  | 0 => none
  | fuel + 1 =>
    if s.nextIs [.closeFlowList] then some ([], s.next)
    else match if first then some s else s.skip? .comma with
      | none => none
      | some s =>
        if s.nextIs [.closeFlowList] then some ([], s.next)
        else if s.nextIs [.key] then
          match flowPair? handles .closeFlowList s.next fuel with
          | none => none
          | some (key, value, s) =>
            (flowItems? handles false s fuel).map fun (ns, s) =>
              (.mapping none [(key, value)] :: ns, s)
        else match node? handles .flow s fuel with
          | none => none
          | some (n, s) => (flowItems? handles false s fuel).map fun (ns, s) => (n :: ns, s)

/-- The fields of a flow mapping up to its end, with a comma in front of all but the first. A key
may stand without a value. -/
def flowFields? (handles : List (String × String)) (first : Bool) (s : Source) :
    (fuel : Nat) → Option (List (Node × Node) × Source)
  | 0 => none
  | fuel + 1 =>
    if s.nextIs [.closeFlowMapping] then some ([], s.next)
    else match if first then some s else s.skip? .comma with
      | none => none
      | some s =>
        if s.nextIs [.closeFlowMapping] then some ([], s.next)
        else if s.nextIs [.key] then
          match flowPair? handles .closeFlowMapping s.next fuel with
          | none => none
          | some (key, value, s) =>
            (flowFields? handles false s fuel).map fun (rest, s) => ((key, value) :: rest, s)
        else match node? handles .flow s fuel with
          | none => none
          | some (key, s) =>
            (flowFields? handles false s fuel).map fun (rest, s) => ((key, .empty) :: rest, s)

end

/-- Directives: whether the version was told, and what handles are short for. -/
structure Directives where
  version : Bool := false
  handles : List (String × String) := []

/-- The directives in front of a document, none of them twice, and the tokens after them. -/
def directives? (d : Directives) : List Token → Option (Directives × List Token)
  | .version :: ts => if d.version then none else directives? { d with version := true } ts
  | .tagHandle handle start :: ts =>
    if d.handles.any (·.1 = handle) then none
    else directives? { d with handles := d.handles ++ [(handle, start)] } ts
  | ts => some (d, ts)

/-- The handles that need no directive. -/
def standardHandles : List (String × String) :=
  [("!", "!"), ("!!", "tag:yaml.org,2002:")]

/-- The node of a document whose directives were read. A document of which nothing is written is an
empty node. -/
def root? (handles : List (String × String)) (tokens : List Token) : Option (Node × List Token) :=
  let source : Source := { tokens, names := [] }
  let stops : List Token := [.documentStart, .documentEnd, .version]
  if source.endOrNextIs stops ∨ tokens.head?.any (· matches .tagHandle ..) then
    some (.empty, tokens)
  else
    (node? (handles ++ standardHandles) .block source (4 * tokens.length + 4)).map fun (n, s) =>
      (n, s.tokens)

/-- Whether nothing but marks of the end of a document is left. -/
def isOver (tokens : List Token) : Bool :=
  tokens.all (· = .documentEnd)

/-- The node of the only document that tokens make up; no node if there are no tokens. A document
need not begin with a mark unless it has directives. -/
def ofTokens? (tokens : List Token) : Option (Option Node) :=
  if tokens = [] then some none
  else do
    let (directives, rest) ← directives? {} tokens
    let body ← match rest with
      | .documentStart :: body => some body
      | _ => if rest = tokens ∧ rest.head? ≠ some .documentEnd then some rest else none
    let (n, rest) ← root? directives.handles body
    if isOver rest then some (some n) else none

/-- The node of the document that a text holds, if it holds one. -/
def read? (text : String) : Option (Option Node) := do
  ofTokens? (← Token.scan? (← cells? text))

end Document
end ClusterPlan.Yaml
