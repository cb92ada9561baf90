import ClusterPlan.Options.Document
import ClusterPlan.Text.Decimal
import ClusterPlan.Tree.Basic

/-!
# Options as trees

A tree sets options as a record of named values, or as a list of values in the order of the names.
`Options.toTree` is the record that sets the options and leaves out what is unset or empty.
-/

namespace ClusterPlan

namespace Tree

/-- A text, or nothing. -/
def optionalText? : Tree → Option (Option String)
  | .null => some none
  | .text s => some (some s)
  | _ => none

/-- An integer of 64 bits, or nothing. -/
def optionalCount? : Tree → Option (Option Int64)
  | .null => some none
  | .int n => (Decimal.toInt64? n).map some
  | _ => none

/-- A truth value, or nothing. -/
def optionalTruth? : Tree → Option (Option Bool)
  | .null => some none
  | .bool b => some (some b)
  | _ => none

/-- A text. -/
def text? : Tree → Option String
  | .text s => some s
  | _ => none

/-- A list of texts. -/
def texts? : Tree → Option (List String)
  | .list items => items.mapM text?
  | _ => none

/-- The values of options in trees. -/
def valueReader : ValueReader Tree where
  text? := optionalText?
  count? := optionalCount?
  truth? := optionalTruth?
  texts? := texts?

end Tree

namespace Options

/-- The options that a tree sets. -/
def ofTree? : Tree → Option Options
  | .record fields => ofNamedFields? Tree.valueReader fields
  | .list values =>
    if values.length ≤ OptionKey.all.length then
      ofFields? Tree.valueReader (OptionKey.all.zip values)
    else none
  | _ => none

/-- The field of an option that is set. -/
def scalarField {α : Type} (k : OptionKey) (tree : α → Tree) (value : Option α) :
    List (String × Tree) :=
  value.toList.map fun a => (k.word, tree a)

/-- The field of a list that is not empty. -/
def listField (k : OptionKey) (items : List String) : List (String × Tree) :=
  if items = [] then [] else [(k.word, .texts items)]

/-- An integer of 64 bits as a tree. -/
def countTree (n : Int64) : Tree :=
  .int n.toInt

/-- The record that sets the options. -/
def toTree (o : Options) : Tree :=
  .record <|
    scalarField .name .text o.name ++
    scalarField .image .text o.image ++
    scalarField .masters countTree o.masters ++
    scalarField .workers countTree o.workers ++
    scalarField .network .text o.network ++
    scalarField .token .text o.token ++
    scalarField .apiPort .text o.apiPort ++
    listField .volumes o.volumes ++
    listField .ports o.ports ++
    scalarField .wait .bool o.wait ++
    scalarField .timeout .text o.timeout ++
    scalarField .updateKubeconfig .bool o.updateKubeconfig ++
    scalarField .switchContext .bool o.switchContext ++
    scalarField .noLoadBalancer .bool o.noLoadBalancer ++
    scalarField .noImageVolume .bool o.noImageVolume ++
    listField .serverArgs o.serverArgs ++
    listField .agentArgs o.agentArgs

end Options
end ClusterPlan
