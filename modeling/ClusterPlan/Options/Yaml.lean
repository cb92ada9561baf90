import ClusterPlan.Options.Document
import ClusterPlan.Text.Decimal
import ClusterPlan.Yaml.Document
import ClusterPlan.Yaml.Meaning

/-!
# Options in YAML

A document sets options as a mapping; one in which nothing is written sets none. What a scalar means
depends on what an option asks for: where a text is asked for, every scalar is a text.
-/

namespace ClusterPlan.Yaml

/-- The tags that make a block scalar something else than a text. -/
def nullTag : String := "tag:yaml.org,2002:null"
def truthTag : String := "tag:yaml.org,2002:bool"
def integerTag : String := "tag:yaml.org,2002:int"

namespace Scalar

/-- Whether nothing is written. -/
def isEmpty (s : Scalar) : Bool :=
  s.style = .plain && s.text = ""

/-- Whether a scalar has a value; none if its tag denies one that it has. -/
def hasValue? (s : Scalar) : Option Bool :=
  if s.style ≠ .plain then some true
  else match s.tag? with
    | none => some (s.text ≠ "" && !Meaning.isNull s.text)
    | some tag =>
      if tag = nullTag then if Meaning.isNull s.text then some false else none
      else some true

/-- Whether a scalar may mean something else than its text: it is plain, or a literal block with the
tag. -/
def isOpen (tag : String) (s : Scalar) : Bool :=
  s.style = .plain || s.style = .literal && s.tag? = some tag

/-- The truth value of a scalar. -/
def truth? (s : Scalar) : Option Bool :=
  if s.isOpen truthTag then Meaning.truth? s.text else none

/-- The integer of 64 bits that a scalar means. -/
def int64? (s : Scalar) : Option Int64 :=
  if s.isOpen integerTag then (Meaning.integer? s.text.toList).bind Decimal.toInt64? else none

end Scalar

namespace Node

/-- The scalar that a node is. -/
def scalar? : Node → Option Scalar
  | .scalar _ s => some s
  | _ => none

/-- The text of a node of a document. -/
def text? (document n : Node) : Option String := do
  let s ← (← document.resolve? n).scalar?
  return s.text

/-- What a scalar of a document is read as, or nothing if it has no value. -/
def optional? {α : Type} (read : Scalar → Option α) (document n : Node) : Option (Option α) := do
  let s ← (← document.resolve? n).scalar?
  if ← s.hasValue? then (read s).map some else some none

/-- A list of texts; nothing at all is an empty one. -/
def texts? (document n : Node) : Option (List String) := do
  match ← document.resolve? n with
  | .list _ items => items.mapM document.text?
  | .scalar _ s => if s.isEmpty then some [] else none
  | _ => none

/-- The values of options in a document. -/
def valueReader (document : Node) : ValueReader Node where
  text? := document.optional? fun s => some s.text
  count? := document.optional? Scalar.int64?
  truth? := document.optional? Scalar.truth?
  texts? := document.texts?

end Node
end ClusterPlan.Yaml

namespace ClusterPlan.Options

/-- The options that a document sets. -/
def ofNode? (document : Yaml.Node) : Option Options :=
  match document with
  | .mapping _ fields => do
    let named ← fields.mapM fun (field : Yaml.Node × Yaml.Node) =>
      (document.text? field.1).map fun name => (name, field.2)
    ofNamedFields? document.valueReader named
  | .scalar _ s => if s.isEmpty then some {} else none
  | _ => none

end ClusterPlan.Options
