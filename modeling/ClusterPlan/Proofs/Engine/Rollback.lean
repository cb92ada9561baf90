import ClusterPlan.Engine.Recording

/-!
# Creation with rollback

What `Engine.createWithRollback` does with any engine (`Engine.Creates`): it asks whether the name is
taken, then creates, and deletes only what it has created itself. For the recording engine the calls are
known, and what is created and then deleted leaves the names as they were (`Record.remove_append`).
-/

namespace ClusterPlan

/-- The call that creates a cluster. -/
def Cluster.createCall (c : Cluster) : String :=
  s!"create {c.name} {c.nodes.length}"

/-- The call that deletes the cluster of a name. -/
def deleteCall (name : String) : String :=
  s!"delete {name}"

namespace Engine

/-- The outcome of creating a cluster in a state of the engine, and the state afterwards. -/
inductive Creates {σ : Type} (engine : Engine σ) (c : Cluster) (s : σ) :
    Except LifecycleError Unit → σ → Prop where
  | taken (h : engine.hasCluster s c.name) : Creates engine c s (.error (.alreadyExists c.name)) s
  | created (h : ¬ engine.hasCluster s c.name) {s₁ : σ} (hc : engine.create c s = (.ok (), s₁)) :
    Creates engine c s (.ok ()) s₁
  | rolledBack (h : ¬ engine.hasCluster s c.name) {create : LifecycleError} {s₁ s₂ : σ}
    (hc : engine.create c s = (.error create, s₁)) (hd : engine.delete c s₁ = (.ok (), s₂)) :
    Creates engine c s (.error (.createFailed create.message)) s₂
  | leftOver (h : ¬ engine.hasCluster s c.name) {create rollback : LifecycleError} {s₁ s₂ : σ}
    (hc : engine.create c s = (.error create, s₁))
    (hd : engine.delete c s₁ = (.error rollback, s₂)) :
    Creates engine c s (.error (.rollbackFailed create.message rollback.message)) s₂

theorem creates_createWithRollback {σ : Type} (engine : Engine σ) (c : Cluster) (s : σ) :
    Creates engine c s (engine.createWithRollback c s).1.result
      (engine.createWithRollback c s).2 := by
  unfold createWithRollback
  split
  · next h => exact .taken h
  · next h =>
    split
    · next hc => exact .created h hc
    · next hc =>
      split
      · next hd => exact .rolledBack h hc hd
      · next hd => exact .leftOver h hc hd

end Engine

/-! ## The recording engine -/

namespace Record

theorem add_of_not_mem {r : Record} {name : String} (h : name ∉ r.existing) :
    r.add name = { r with existing := r.existing ++ [name] } := by
  rw [add, if_neg h]

/-- What is deleted right after it was added leaves the names as they were. -/
theorem remove_append {names calls : List String} {name : String} (h : name ∉ names) :
    remove { existing := names ++ [name], calls } name = { existing := names, calls } := by
  have hothers : names.filter (· ≠ name) = names :=
    List.filter_eq_self.2 fun other hother => decide_eq_true fun heq => h (heq ▸ hother)
  have hself : [name].filter (· ≠ name) = [] := by simp
  rw [remove, List.filter_append, hself, hothers, List.append_nil]

end Record

namespace Engine

variable {f : Failures} {c : Cluster} {r r' : Record}

theorem hasCluster_recording : (recording f).hasCluster r c.name ↔ c.name ∈ r.existing :=
  List.contains_iff_mem

/-- Creation adds the name, whatever its outcome. -/
theorem create_recording (hn : c.name ∉ r.existing) :
    (recording f).create c r = ((f.create?.map LifecycleError.engine).elim (.ok ()) .error,
      { existing := r.existing ++ [c.name], calls := r.calls ++ [c.createCall] }) := by
  have hadd : (r.log c.createCall).add c.name =
      { existing := r.existing ++ [c.name], calls := r.calls ++ [c.createCall] } :=
    Record.add_of_not_mem hn
  rw [← hadd]
  rfl

theorem create_recording_eq_ok_iff (hn : c.name ∉ r.existing) :
    (recording f).create c r = (.ok (), r') ↔ f.create? = none ∧
      r' = { existing := r.existing ++ [c.name], calls := r.calls ++ [c.createCall] } := by
  rw [create_recording hn, Prod.mk.injEq, eq_comm (b := r')]
  cases f.create? <;> simp

theorem create_recording_eq_error_iff (hn : c.name ∉ r.existing) {e : LifecycleError} :
    (recording f).create c r = (.error e, r') ↔
      (∃ reason, f.create? = some reason ∧ e = .engine reason) ∧
      r' = { existing := r.existing ++ [c.name], calls := r.calls ++ [c.createCall] } := by
  rw [create_recording hn, Prod.mk.injEq, eq_comm (b := r')]
  cases f.create? <;> simp [eq_comm]

theorem delete_recording_eq_ok_iff : (recording f).delete c r = (.ok (), r') ↔
    f.delete? = none ∧ r' = (r.log (deleteCall c.name)).remove c.name := by
  simp only [recording]
  cases f.delete? with
  | none => simp [eq_comm, deleteCall]
  | some reason => simp

/-- A deletion that fails leaves the names as they are. -/
theorem delete_recording_eq_error_iff {e : LifecycleError} :
    (recording f).delete c r = (.error e, r') ↔
      (∃ reason, f.delete? = some reason ∧ e = .engine reason) ∧ r' = r.log (deleteCall c.name) := by
  simp only [recording]
  cases f.delete? with
  | none => simp
  | some reason => simp [eq_comm, deleteCall]

end Engine
end ClusterPlan
