import ClusterPlan.Node
import ClusterPlan.Text.Decimal
import ClusterPlan.Text.Split

/-!
# Node filters

A filter names a group of nodes and a subset of it: `worker`, `master[*]`, `worker[0,2]`,
`master[1:]`. Indexes count within the group and ranges include both ends. `Filter.read` accepts
exactly these forms, and tells a text that is no filter at all from one whose subset is unknown.
-/

namespace ClusterPlan

/-- Why a flag has no filters, or why filters select nothing. -/
inductive FilterError where
  | multipleSeparators (flag : String)
  | missingPart (flag : String)
  | malformed (filter : String)
  | unknownSubset (filter subset : String)
  | indexOutOfRange (filter : String) (index available : Nat)
  | invalidRange (filter : String)
  | noMatch (filter : String)
deriving Repr, DecidableEq

/-- The message that reports a failure. -/
def FilterError.message : FilterError → String
  | .multipleSeparators flag => s!"Invalid flag '{flag}': only one '@' for node filter allowed"
  | .missingPart flag =>
    s!"Invalid flag '{flag}' includes '@' but is missing either an object or a filter"
  | .malformed filter =>
    s!"Failed to parse node filter '{filter}': expected ROLE[SUBSET] with ROLE one of " ++
      "master, worker, loadbalancer, all"
  | .unknownSubset filter subset =>
    s!"Failed to parse node filter '{filter}': unknown subset '{subset}'"
  | .indexOutOfRange filter index available =>
    s!"Index out of range: index '{index}' >= number of available nodes ({available}) in filter " ++
      s!"'{filter}'"
  | .invalidRange filter => s!"Invalid range in node filter '{filter}': end is lower than start"
  | .noMatch filter => s!"Node filter '{filter}' does not match any node"

/-- The nodes of which a filter selects some. -/
inductive Group where
  | all
  | role (role : Role)
deriving Repr, DecidableEq

/-- The members of a group that a filter selects, by their index in the group. -/
inductive Subset where
  | whole
  | list (indexes : List Nat)
  /-- From `first` to `last`; an end that is left out is that of the group. -/
  | range (first last : Option Nat)
deriving Repr, DecidableEq

/-- A group and a subset of it. -/
structure Filter where
  group : Group
  subset : Subset
deriving Repr, DecidableEq

/-- The group with a name. -/
def Group.ofName? (name : List Char) : Option Group :=
  if name = "all".toList then some .all
  else if name = "master".toList then some (.role .master)
  else if name = "worker".toList then some (.role .worker)
  else if name = "loadbalancer".toList then some (.role .loadBalancer)
  else none

namespace Subset

/-- An index: a number of 64 bits. -/
def index? (cs : List Char) : Option Nat :=
  Decimal.natural? Decimal.wordLimit cs

/-- One end of a range: an index, or nothing at all. -/
def bound? (cs : List Char) : Option (Option Nat) :=
  if cs = [] then some none else (index? cs).map some

/-- The subset that stands between the brackets. -/
def read? (cs : List Char) : Option Subset :=
  if cs = ['*'] then some .whole
  else match Text.cut ':' cs with
    | some (first, last) => do
      let first ← bound? first
      let last ← bound? last
      return .range first last
    | none => ((Text.fields ',' cs).mapM index?).map .list

end Subset

namespace Filter

/-- The letters that name a group. -/
def isGroupChar (c : Char) : Bool :=
  'a' ≤ c && c ≤ 'z'

/-- The name of the group and, between brackets that end the text, the subset. -/
def parts? (cs : List Char) : Option (List Char × Option (List Char)) :=
  let name := cs.takeWhile isGroupChar
  match name, cs.dropWhile isGroupChar with
  | [], _ => none
  | _, [] => some (name, none)
  | _, '[' :: body =>
    match Text.cut ']' body with
    | some (subset, []) => some (name, some subset)
    | _ => none
  | _, _ => none

/-- The subset of a group, where all nodes together have no other subset than the whole. -/
def subset? (group : Group) : Option (List Char) → Option Subset
  | none => some .whole
  | some cs => (Subset.read? cs).filter fun s => group ≠ .all ∨ s = .whole

/-- The filter that a text denotes. -/
def read (text : String) : Except FilterError Filter :=
  match parts? text.toList with
  | none => .error (.malformed text)
  | some (name, brackets) =>
    match Group.ofName? name with
    | none => .error (.malformed text)
    | some group =>
      match subset? group brackets with
      | none => .error (.unknownSubset text (String.ofList (brackets.getD [])))
      | some subset => .ok { group, subset }

end Filter
end ClusterPlan
