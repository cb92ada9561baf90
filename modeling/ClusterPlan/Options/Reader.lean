import ClusterPlan.Json.Reader
import ClusterPlan.Options.Tree
import ClusterPlan.Options.Yaml
import ClusterPlan.Text.Blank
import ClusterPlan.Text.Split

/-!
# Reading options

Options are read from documents in YAML or JSON. The name of a file tells which: `json` after the
last point means JSON, and everything else YAML.
-/

namespace ClusterPlan

/-- A format of documents. -/
inductive DocumentFormat where
  | yaml
  | json
deriving Repr, DecidableEq

namespace DocumentFormat

/-- The last part of a path that names something; slashes at the end, and points that stand for the
folder they are in, name nothing more. -/
def fileName (path : List Char) : List Char :=
  (((Text.fields '/' path).filter fun part => part ≠ [] ∧ part ≠ ['.']).getLast?).getD []

/-- What stands after the last point of a name, if something stands before it. -/
def ending? (name : List Char) : Option (List Char) :=
  if name = ['.', '.'] then none
  else match Text.cut '.' name.reverse with
    | some (ending, start) => if start = [] then none else some ending.reverse
    | none => none

/-- The format of the document in a file. -/
def ofPath (path : String) : DocumentFormat :=
  if ending? (fileName path.toList) = some "json".toList then .json else .yaml

end DocumentFormat

/-- The options that the text of a document sets. A text without anything but blanks sets none, if
it is read as YAML. -/
def Options.read? (format : DocumentFormat) (text : String) : Option Options :=
  match format with
  | .json => (Json.read? text).bind Options.ofTree?
  | .yaml =>
    if Text.trim text.toList = [] then some {}
    else match Yaml.Document.read? text with
      | none => none
      | some none => some {}
      | some (some document) => Options.ofNode? document

end ClusterPlan
