/-!
# YAML tokens

The parts of a YAML text: scalars and their properties, punctuation, and the beginning and end of
block collections, which only the indentation shows.
-/

namespace ClusterPlan.Yaml

/-- How a scalar is written. -/
inductive ScalarStyle where
  | plain
  | singleQuoted
  | doubleQuoted
  | literal
  | folded
deriving Repr, DecidableEq

/-- The smallest meaningful part of a YAML text. -/
inductive Token where
  /-- The directive that says which version of the language is used. -/
  | version
  /-- The directive that makes a handle short for the beginning of tags. -/
  | tagHandle (handle start : String)
  | documentStart
  | documentEnd
  | openBlockList
  | openBlockMapping
  | closeBlock
  | openFlowList
  | closeFlowList
  | openFlowMapping
  | closeFlowMapping
  /-- The dash in front of an item of a block list. -/
  | item
  | comma
  /-- What stands in front of a key: a question mark, or nothing. -/
  | key
  /-- The colon in front of a value. -/
  | value
  | alias (name : String)
  | anchor (name : String)
  | tag (handle rest : String)
  | scalar (style : ScalarStyle) (text : String)
deriving Repr, DecidableEq

end ClusterPlan.Yaml
