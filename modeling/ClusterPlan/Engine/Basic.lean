import ClusterPlan.Cluster.Basic

/-!
# Engines

An engine turns the description of a cluster into running containers, and removes them again.
`Engine.createWithRollback` leaves nothing behind when creation fails: what the engine has created
by then is deleted before the failure is reported. A cluster whose name is taken is not touched.
-/

namespace ClusterPlan

/-- Why a cluster was not created or not deleted. -/
inductive LifecycleError where
  | alreadyExists (name : String)
  | createFailed (reason : String)
  | rollbackFailed (create rollback : String)
  | engine (reason : String)
deriving Repr, DecidableEq

/-- The message that reports a failure. -/
def LifecycleError.message : LifecycleError → String
  | .alreadyExists name =>
    s!"Failed to create cluster '{name}' because a cluster with that name already exists"
  | .createFailed reason =>
    s!"Cluster creation FAILED, all changes have been rolled back: {reason}"
  | .rollbackFailed create rollback =>
    s!"Cluster creation FAILED, also FAILED to rollback changes: {create} (rollback: {rollback})"
  | .engine reason => s!"Engine error: {reason}"

/-- An engine whose containers are in a state `σ`. -/
structure Engine (σ : Type) where
  /-- Whether there is a cluster with a name. -/
  hasCluster : σ → String → Bool
  create : Cluster → σ → Except LifecycleError Unit × σ
  delete : Cluster → σ → Except LifecycleError Unit × σ

namespace Engine

variable {σ : Type}

/-- Creates a cluster, or deletes again what was created of it. -/
def createWithRollback (engine : Engine σ) (c : Cluster) (s : σ) :
    Noted LifecycleError Unit × σ :=
  if engine.hasCluster s c.name then (Noted.fail (.alreadyExists c.name), s)
  else match engine.create c s with
    | (.ok (), s) =>
      (Noted.tell .info .lifecycle s!"Cluster '{c.name}' created successfully!", s)
    | (.error create, s) =>
      let failed : Noted LifecycleError Unit := do
        Noted.tell .error .lifecycle create.message
        Noted.tell .error .lifecycle "Failed to create cluster >>> Rolling Back"
      match engine.delete c s with
      | (.ok (), s) => (do failed; Noted.fail (.createFailed create.message), s)
      | (.error rollback, s) =>
        (do
          failed
          Noted.tell .error .lifecycle rollback.message
          Noted.fail (.rollbackFailed create.message rollback.message), s)

end Engine
end ClusterPlan
