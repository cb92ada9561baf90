import ClusterPlan.Filter.Basic

/-!
# Flags with filters

The value of a `--volume` or `--port` flag is an object, optionally followed by `@` and the filters
that select its nodes, with `;` between them. `Flag.split` takes it apart and `Flag.text` writes it.
-/

namespace ClusterPlan

/-- An object and the filters that select the nodes it is attached to. -/
structure Flag where
  object : String
  filters : List String
deriving Repr, DecidableEq

namespace Flag

/-- The object and the filters of a flag. -/
def split (flag : String) : Except FilterError Flag :=
  match Text.cut '@' flag.toList with
  | none => .ok { object := flag, filters := [] }
  | some (object, rest) =>
    let filters := Text.fields ';' rest
    if '@' ∈ rest then .error (.multipleSeparators flag)
    else if object = [] ∨ [] ∈ filters then .error (.missingPart flag)
    else .ok { object := String.ofList object, filters := filters.map String.ofList }

/-- The flag with an object and filters. -/
def text (f : Flag) : String :=
  if f.filters = [] then f.object
  else f.object ++ "@" ++ Text.joinStrings ";" f.filters

end Flag
end ClusterPlan
