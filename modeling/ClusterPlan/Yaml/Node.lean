import ClusterPlan.Yaml.Token

/-!
# YAML nodes

A document is a node: a scalar, a list, a mapping, or an alias for a node with an anchor. Anchors
have numbers here, and an alias holds that of its anchor. `Node.anchored?` finds the node.
-/

namespace ClusterPlan.Yaml

/-- A scalar. -/
structure Scalar where
  style : ScalarStyle
  text : String
  tag? : Option String := none
deriving Repr, DecidableEq

/-- A node of a document, with the number of its anchor if it has one. -/
inductive Node where
  | scalar (anchor? : Option Nat) (value : Scalar)
  | list (anchor? : Option Nat) (items : List Node)
  | mapping (anchor? : Option Nat) (fields : List (Node × Node))
  | alias (anchor : Nat)
deriving Repr

namespace Node

/-- A node where nothing is written. -/
def empty : Node :=
  .scalar none { style := .plain, text := "" }

/-- The number of an anchor and its node. -/
def mark (anchor? : Option Nat) (n : Node) : List (Nat × Node) :=
  anchor?.toList.map fun a => (a, n)

mutual

/-- The anchors in a node with the nodes that they stand at, in the order of the text. -/
def anchors : Node → List (Nat × Node)
  | .scalar anchor? value => mark anchor? (.scalar anchor? value)
  | .list anchor? items => mark anchor? (.list anchor? items) ++ itemAnchors items
  | .mapping anchor? fields => mark anchor? (.mapping anchor? fields) ++ fieldAnchors fields
  | .alias _ => []

/-- The anchors in the items of a list. -/
def itemAnchors : List Node → List (Nat × Node)
  | [] => []
  | n :: ns => anchors n ++ itemAnchors ns

/-- The anchors in the fields of a mapping. -/
def fieldAnchors : List (Node × Node) → List (Nat × Node)
  | [] => []
  | (key, value) :: fields => anchors key ++ anchors value ++ fieldAnchors fields

end

/-- The last node in a document with an anchor. -/
def anchored? (document : Node) (anchor : Nat) : Option Node :=
  (document.anchors.findRev? fun (a, _) => a = anchor).map (·.2)

/-- The node of a document itself, or the one that it is an alias for. -/
def resolve? (document : Node) : Node → Option Node
  | .alias anchor => document.anchored? anchor
  | n => some n

end Node
end ClusterPlan.Yaml
