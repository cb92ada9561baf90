import ClusterPlan.Cluster.Build
import ClusterPlan.Engine.Basic

/-!
# A recording engine

An engine without containers, to try out runs of creating and deleting clusters: it knows the names
of the clusters that exist, writes down every call, and fails where it is told to. Creation adds the
name even if it is about to fail, and a failed deletion leaves it.
-/

namespace ClusterPlan

/-- What the recording engine has seen. -/
structure Record where
  /-- The names of the clusters that exist, each once. -/
  existing : List String
  /-- The calls, the first one first. -/
  calls : List String
deriving Repr, DecidableEq

/-- The failures that the recording engine is told to report. -/
structure Failures where
  create? : Option String := none
  delete? : Option String := none
deriving Repr, DecidableEq

namespace Record

/-- The record with a name among the existing ones. -/
def add (r : Record) (name : String) : Record :=
  { r with existing := if name ∈ r.existing then r.existing else r.existing ++ [name] }

/-- The record without a name among the existing ones. -/
def remove (r : Record) (name : String) : Record :=
  { r with existing := r.existing.filter (· ≠ name) }

/-- The record with one more call. -/
def log (r : Record) (call : String) : Record :=
  { r with calls := r.calls ++ [call] }

/-- A record of names and no calls. -/
def ofNames (names : List String) : Record :=
  names.foldl add { existing := [], calls := [] }

/-- The existing names in order. -/
def sortedNames (r : Record) : List String :=
  r.existing.mergeSort fun a b => a ≤ b

end Record

/-- The engine that records its calls and fails as it is told to. -/
def Engine.recording (f : Failures) : Engine Record where
  hasCluster r name := r.existing.contains name
  create c r :=
    ((f.create?.map LifecycleError.engine).elim (.ok ()) .error,
      (r.log s!"create {c.name} {c.nodes.length}").add c.name)
  delete c r :=
    let r := r.log s!"delete {c.name}"
    match f.delete? with
    | some reason => (.error (.engine reason), r)
    | none => (.ok (), r.remove c.name)

/-- What a step of a run does with its cluster. -/
inductive EngineAction where
  | create
  | delete
deriving Repr, DecidableEq

/-- A step of a run: a cluster is built from options, and then created or deleted. -/
structure EngineStep where
  action : EngineAction
  options : Options
  failures : Failures
deriving Repr, DecidableEq

/-- Why a step of a run failed. -/
inductive StepError where
  | build (e : BuildError)
  | lifecycle (e : LifecycleError)
deriving Repr, DecidableEq

namespace EngineStep

/-- Runs a step; the calls of earlier steps are not kept. -/
def run (ctx : BuildContext) (r : Record) (step : EngineStep) : Except StepError Unit × Record :=
  let r := { r with calls := [] }
  match (Cluster.build ctx step.options).result with
  | .error e => (.error (.build e), r)
  | .ok c =>
    let engine := Engine.recording step.failures
    match step.action with
    | .create =>
      let (outcome, r) := engine.createWithRollback c r
      (outcome.result.mapError .lifecycle, r)
    | .delete =>
      let (outcome, r) := engine.delete c r
      (outcome.mapError .lifecycle, r)

/-- Runs steps one after the other, with the outcome and the record after each. -/
def runAll (ctx : BuildContext) (r : Record) :
    List EngineStep → List (Except StepError Unit × Record)
  | [] => []
  | step :: steps =>
    let (outcome, r) := run ctx r step
    (outcome, r) :: runAll ctx r steps

end EngineStep
end ClusterPlan
