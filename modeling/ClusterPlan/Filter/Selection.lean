import ClusterPlan.Filter.Basic
import ClusterPlan.Notice
import ClusterPlan.Text.Quoted

/-!
# Selecting nodes

`select` gives the positions of the candidates that a list of filters selects. A candidate is
selected by a filter if its role is the group of the filter and its rank among the candidates of
that role is in the subset; no filters at all, and the filter `all`, select every candidate. Filters
are read from left to right, and those after an `all` are not read.

A `Resolver` is whatever answers such questions; `roleResolver` answers them by `select`.
-/

namespace ClusterPlan

namespace Subset

/-- Whether the member with a rank is in the subset. -/
def holds (rank : Nat) : Subset → Bool
  | .whole => true
  | .list indexes => indexes.contains rank
  | .range first last => first.getD 0 ≤ rank && last.all (rank ≤ ·)

/-- Whether a subset fits a group of `available` members, for the filter that `text` denotes. -/
def check (text : String) (available : Nat) : Subset → Except FilterError Unit
  | .whole => .ok ()
  | .list indexes =>
    match indexes.find? (available ≤ ·) with
    | some index => .error (.indexOutOfRange text index available)
    | none => .ok ()
  | .range first last =>
    let first := first.getD 0
    match last, available with
    | none, 0 =>
      if first = 0 then .ok () else .error (.indexOutOfRange text first 0)
    | _, _ =>
      let last := last.getD (available - 1)
      if last < first then .error (.invalidRange text)
      else if available ≤ last then .error (.indexOutOfRange text last available)
      else .ok ()

end Subset

/-- The members of one role that a filter selects. -/
structure Pick where
  role : Role
  subset : Subset
deriving Repr, DecidableEq

/-- What a list of filters asks for. -/
inductive Selection where
  /-- Every candidate, because of the filter `text`. -/
  | all (text : String)
  | picks (picks : List Pick)
deriving Repr, DecidableEq

namespace Selection

/-- What filters ask for, read from left to right up to the first `all`. -/
def read (roles : List Role) : List String → Except FilterError Selection
  | [] => .ok (.picks [])
  | text :: texts =>
    match Filter.read text with
    | .error e => .error e
    | .ok { group := .all, .. } => .ok (.all text)
    | .ok { group := .role role, subset } =>
      match subset.check text (roles.count role) with
      | .error e => .error e
      | .ok () =>
        match read roles texts with
        | .ok (.picks ps) => .ok (.picks ({ role, subset } :: ps))
        | other => other

/-- The candidates with their ranks: how many of the same role stand before each. -/
def ranked (roles : List Role) : List (Role × Nat) :=
  go (fun _ => 0) roles
where
  /-- `ranked`, where `seen` members of each role stand before the candidates. -/
  go (seen : Role → Nat) : List Role → List (Role × Nat)
    | [] => []
    | r :: rs => (r, seen r) :: go (fun q => if q = r then seen q + 1 else seen q) rs

/-- Whether one of the picks selects the member of a role with a rank. -/
def selects (picks : List Pick) (role : Role) (rank : Nat) : Bool :=
  picks.any fun p => p.role = role && p.subset.holds rank

/-- The positions of the candidates that picks select, in increasing order. -/
def positions (roles : List Role) (picks : List Pick) : List Nat :=
  (ranked roles).zipIdx.filterMap fun ((role, rank), i) =>
    if selects picks role rank then some i else none

end Selection

/-- The positions of the candidates, given by their roles, that filters select. -/
def select (roles : List Role) (filters : List String) : Noted FilterError (List Nat) :=
  if filters = [] then do
    Noted.tell .warn .filters s!"No node filter specified, selecting all {roles.length} candidates"
    return List.range roles.length
  else
    match Selection.read roles filters with
    | .error e => Noted.fail e
    | .ok (.all text) => do
      Noted.tellIf (1 < filters.length) .warn .filters
        s!"Node filter 'all' set, ignoring the others in {Text.quotedList filters}"
      if roles = [] then Noted.fail (.noMatch text) else return List.range roles.length
    | .ok (.picks picks) =>
      let chosen := Selection.positions roles picks
      if chosen = [] then Noted.fail (.noMatch (Text.joinStrings ";" filters)) else pure chosen

/-- A question to a resolver: which of the candidates do the filters select? -/
structure Query where
  candidates : List Node
  filters : List String
deriving Repr, DecidableEq

/-- Answers questions with positions of candidates; what it was asked before is its first argument,
so that it may remember. -/
abbrev Resolver := List Query → Query → Noted FilterError (List Nat)

/-- The resolver that goes by the roles of the candidates. -/
def roleResolver : Resolver :=
  fun _ q => select (q.candidates.map Node.role) q.filters

end ClusterPlan
