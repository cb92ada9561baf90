import ClusterPlan.Proofs.Engine.Rollback

/-!
# Runs of the recording engine

`EngineStep.Does` says what a step does by the names that exist before it: a cluster is created, or
nothing is left of it, unless its rollback fails too. One step does this (`EngineStep.does_run`), so each
step of a run does it from the names that the steps before it left (`EngineStep.getElem?_runAll`). A name
goes on existing until it is deleted (`EngineStep.mem_recordAt`), which is why a cluster that could not
be rolled back stands in the way of later ones of its name (`EngineStep.isAllOrNothing_runAll`).
-/

namespace ClusterPlan.EngineStep

/-! ## One step -/

/-- What a step does where certain names exist: its outcome, the calls that the engine gets, and the
names that exist afterwards. -/
inductive Does (ctx : BuildContext) (names : List String) (step : EngineStep) :
    Except StepError Unit → List String → List String → Prop where
  /-- No cluster can be built. -/
  | unbuilt {e : BuildError} (hb : (Cluster.build ctx step.options).result = .error e) :
    Does ctx names step (.error (.build e)) [] names
  /-- The name of the cluster is taken. -/
  | taken {c : Cluster} (hb : (Cluster.build ctx step.options).result = .ok c)
    (ha : step.action = .create) (hn : c.name ∈ names) :
    Does ctx names step (.error (.lifecycle (.alreadyExists c.name))) [] names
  | created {c : Cluster} (hb : (Cluster.build ctx step.options).result = .ok c)
    (ha : step.action = .create) (hn : c.name ∉ names) (hc : step.failures.create? = none) :
    Does ctx names step (.ok ()) [c.createCall] (names ++ [c.name])
  /-- Creation fails and leaves nothing behind. -/
  | rolledBack {c : Cluster} (hb : (Cluster.build ctx step.options).result = .ok c)
    (ha : step.action = .create) (hn : c.name ∉ names) {reason : String}
    (hc : step.failures.create? = some reason) (hd : step.failures.delete? = none) :
    Does ctx names step (.error (.lifecycle (.createFailed (LifecycleError.engine reason).message)))
      [c.createCall, deleteCall c.name] names
  /-- Creation fails, and what it has created is left over. -/
  | leftOver {c : Cluster} (hb : (Cluster.build ctx step.options).result = .ok c)
    (ha : step.action = .create) (hn : c.name ∉ names) {reason rollback : String}
    (hc : step.failures.create? = some reason) (hd : step.failures.delete? = some rollback) :
    Does ctx names step (.error (.lifecycle (.rollbackFailed (LifecycleError.engine reason).message
      (LifecycleError.engine rollback).message))) [c.createCall, deleteCall c.name] (names ++ [c.name])
  | deleted {c : Cluster} (hb : (Cluster.build ctx step.options).result = .ok c)
    (ha : step.action = .delete) (hd : step.failures.delete? = none) :
    Does ctx names step (.ok ()) [deleteCall c.name] (names.filter (· ≠ c.name))
  | undeleted {c : Cluster} (hb : (Cluster.build ctx step.options).result = .ok c)
    (ha : step.action = .delete) {reason : String} (hd : step.failures.delete? = some reason) :
    Does ctx names step (.error (.lifecycle (.engine reason))) [deleteCall c.name] names

section Step

variable {ctx : BuildContext} {r : Record} {step : EngineStep} {c : Cluster}

theorem run_of_error {e : BuildError} (hb : (Cluster.build ctx step.options).result = .error e) :
    run ctx r step = (.error (.build e), { r with calls := [] }) := by
  simp only [run, hb]

theorem run_delete (hb : (Cluster.build ctx step.options).result = .ok c)
    (ha : step.action = .delete) {outcome : Except LifecycleError Unit} {after : Record}
    (h : (Engine.recording step.failures).delete c { r with calls := [] } = (outcome, after)) :
    run ctx r step = (outcome.mapError .lifecycle, after) := by
  simp only [run, hb, ha, h]

/-- A step that creates a cluster does what the engine does with rollback. -/
theorem exists_run_create (hb : (Cluster.build ctx step.options).result = .ok c)
    (ha : step.action = .create) : ∃ outcome after,
      Engine.Creates (Engine.recording step.failures) c { r with calls := [] } outcome after ∧
      run ctx r step = (outcome.mapError .lifecycle, after) := by
  refine ⟨_, _, Engine.creates_createWithRollback _ c _, ?_⟩
  simp only [run, hb, ha]

end Step

theorem does_run_create {ctx : BuildContext} {r : Record} {step : EngineStep} {c : Cluster}
    (hb : (Cluster.build ctx step.options).result = .ok c) (ha : step.action = .create) :
    Does ctx r.existing step (run ctx r step).1 (run ctx r step).2.calls
      (run ctx r step).2.existing := by
  obtain ⟨outcome, after, h, hrun⟩ := exists_run_create (r := r) hb ha
  have hmem : (Engine.recording step.failures).hasCluster { r with calls := [] } c.name ↔
      c.name ∈ r.existing := Engine.hasCluster_recording
  rw [hrun]
  cases h with
  | taken hn => exact .taken hb ha (hmem.1 hn)
  | created hn hc =>
    replace hn : c.name ∉ ({ r with calls := [] } : Record).existing := mt hmem.2 hn
    obtain ⟨hnone, rfl⟩ := (Engine.create_recording_eq_ok_iff hn).1 hc
    exact .created hb ha hn hnone
  | rolledBack hn hc hd =>
    replace hn : c.name ∉ ({ r with calls := [] } : Record).existing := mt hmem.2 hn
    obtain ⟨⟨reason, hreason, rfl⟩, rfl⟩ := (Engine.create_recording_eq_error_iff hn).1 hc
    obtain ⟨hnone, rfl⟩ := Engine.delete_recording_eq_ok_iff.1 hd
    rw [Record.log, Record.remove_append hn]
    exact .rolledBack hb ha hn hreason hnone
  | leftOver hn hc hd =>
    replace hn : c.name ∉ ({ r with calls := [] } : Record).existing := mt hmem.2 hn
    obtain ⟨⟨reason, hreason, rfl⟩, rfl⟩ := (Engine.create_recording_eq_error_iff hn).1 hc
    obtain ⟨⟨rollback, hrollback, rfl⟩, rfl⟩ := Engine.delete_recording_eq_error_iff.1 hd
    exact .leftOver hb ha hn hreason hrollback

/-- What a step does. -/
theorem does_run (ctx : BuildContext) (r : Record) (step : EngineStep) :
    Does ctx r.existing step (run ctx r step).1 (run ctx r step).2.calls
      (run ctx r step).2.existing := by
  cases hb : (Cluster.build ctx step.options).result with
  | error e =>
    rw [run_of_error hb]
    exact .unbuilt hb
  | ok c =>
    cases ha : step.action with
    | create => exact does_run_create hb ha
    | delete =>
      cases hd : step.failures.delete? with
      | none =>
        rw [run_delete hb ha (Engine.delete_recording_eq_ok_iff.2 ⟨hd, rfl⟩)]
        exact .deleted hb ha hd
      | some reason =>
        rw [run_delete hb ha (Engine.delete_recording_eq_error_iff.2 ⟨⟨reason, hd, rfl⟩, rfl⟩)]
        exact .undeleted hb ha hd

/-- A step whose cluster has a name. -/
def Builds (ctx : BuildContext) (step : EngineStep) (name : String) : Prop :=
  ∃ c, (Cluster.build ctx step.options).result = .ok c ∧ c.name = name

/-- A name goes on existing unless a cluster of that name is deleted. -/
theorem Does.mem_names {ctx : BuildContext} {names after calls : List String} {step : EngineStep}
    {outcome : Except StepError Unit} (h : Does ctx names step outcome calls after) {name : String}
    (hn : name ∈ names) (hd : step.action = .delete → Builds ctx step name → outcome ≠ .ok ()) :
    name ∈ after := by
  cases h with
  | unbuilt | taken | rolledBack | undeleted => exact hn
  | created | leftOver => exact List.mem_append_left _ hn
  | @deleted c hb ha =>
    refine List.mem_filter.2 ⟨hn, decide_eq_true fun heq => ?_⟩
    exact hd ha ⟨c, hb, heq.symm⟩ rfl

theorem deleteCall_ne_createCall (name : String) (c : Cluster) : deleteCall name ≠ c.createCall := by
  intro h
  have hlist := congrArg String.toList h
  simp [deleteCall, Cluster.createCall, toString] at hlist

theorem deleteCall_inj {name name' : String} (h : deleteCall name = deleteCall name') :
    name = name' := by
  have hlist := congrArg String.toList h
  simpa [deleteCall, toString, String.toList_inj] using hlist

/-- What a creating step deletes did not exist before. -/
theorem Does.not_mem_of_delete {ctx : BuildContext} {names after calls : List String}
    {step : EngineStep} {outcome : Except StepError Unit}
    (h : Does ctx names step outcome calls after) (ha : step.action = .create) {name : String}
    (hd : deleteCall name ∈ calls) : name ∉ names := by
  have hcalls {c : Cluster} (hd : deleteCall name ∈ [c.createCall, deleteCall c.name]) :
      name = c.name := by
    rcases List.mem_cons.1 hd with hd | hd
    · exact absurd hd (deleteCall_ne_createCall name c)
    · exact deleteCall_inj (List.mem_singleton.1 hd)
  cases h with
  | unbuilt | taken => cases hd
  | created => exact absurd (List.mem_singleton.1 hd) (deleteCall_ne_createCall name _)
  | rolledBack _ _ hn | leftOver _ _ hn => rwa [hcalls hd]
  | deleted _ ha' | undeleted _ ha' => rw [ha] at ha'; cases ha'

/-- What could not be rolled back exists. -/
theorem Does.mem_of_rollbackFailed {ctx : BuildContext} {names after calls : List String}
    {step : EngineStep} {create rollback : String}
    (h : Does ctx names step (.error (.lifecycle (.rollbackFailed create rollback))) calls after)
    {name : String} (hb : Builds ctx step name) : name ∈ after := by
  obtain ⟨c, hb, rfl⟩ := hb
  cases h with
  | leftOver hb' =>
    cases hb.symm.trans hb'
    exact List.mem_append_right _ List.mem_cons_self

/-! ## Runs -/

/-- The record after the first steps of a run. -/
def recordAt (ctx : BuildContext) (r : Record) (steps : List EngineStep) (i : Nat) : Record :=
  (steps.take i).foldl (fun r step => (run ctx r step).2) r

section Run

variable {ctx : BuildContext} {r : Record} {steps : List EngineStep} {step : EngineStep}

theorem recordAt_succ {i : Nat} (h : steps[i]? = some step) :
    recordAt ctx r steps (i + 1) = (run ctx (recordAt ctx r steps i) step).2 := by
  rw [recordAt, List.take_add_one, h, List.foldl_append]
  rfl

/-- Each step of a run starts with the record that the steps before it leave. -/
theorem getElem?_runAll (ctx : BuildContext) (r : Record) (steps : List EngineStep) (i : Nat) :
    (runAll ctx r steps)[i]? = steps[i]?.map (run ctx (recordAt ctx r steps i)) := by
  induction steps generalizing r i with
  | nil => rfl
  | cons step steps ih =>
    cases i with
    | zero => rfl
    | succ i =>
      rw [runAll, List.getElem?_cons_succ, List.getElem?_cons_succ, ih]
      rfl

/-- A name that exists after some steps of a run exists after later steps, unless a cluster of that name
is deleted between them. -/
theorem mem_recordAt {name : String} {i j : Nat} (hij : i ≤ j)
    (hn : name ∈ (recordAt ctx r steps i).existing)
    (hkept : ∀ k step, i ≤ k → k < j → steps[k]? = some step → step.action = .delete →
      Builds ctx step name → ∀ after, (runAll ctx r steps)[k]? ≠ some (.ok (), after)) :
    name ∈ (recordAt ctx r steps j).existing := by
  induction hij with
  | refl => exact hn
  | @step j hij ih =>
    have hj := ih fun k step hik hkj => hkept k step hik (Nat.lt_succ_of_lt hkj)
    cases hstep : steps[j]? with
    | none =>
      have hlen : steps.length ≤ j := List.getElem?_eq_none_iff.1 hstep
      rw [recordAt, List.take_of_length_le hlen] at hj
      rwa [recordAt, List.take_of_length_le (Nat.le_succ_of_le hlen)]
    | some step =>
      rw [recordAt_succ hstep]
      refine (does_run ctx _ step).mem_names hj fun ha hb hok => ?_
      have hrun := getElem?_runAll ctx r steps j
      rw [hstep, Option.map_some] at hrun
      exact hkept j step hij (Nat.lt_succ_self j) hstep ha hb _ (hrun.trans (by rw [← hok]))

/-- In a step that creates a cluster of an existing name, that name is taken. -/
theorem run_of_mem {name : String} (ha : step.action = .create) (hb : Builds ctx step name)
    (hn : name ∈ r.existing) : (run ctx r step).1 = .error (.lifecycle (.alreadyExists name)) := by
  obtain ⟨c, hb, rfl⟩ := hb
  obtain ⟨outcome, after, h, hrun⟩ := exists_run_create (r := r) hb ha
  have htaken : (Engine.recording step.failures).hasCluster { r with calls := [] } c.name :=
    Engine.hasCluster_recording.2 hn
  rw [hrun]
  cases h with
  | taken => rfl
  | created hnew | rolledBack hnew | leftOver hnew => exact absurd htaken hnew

end Run

/-- What holds of every run: creation is all or nothing. -/
structure IsAllOrNothing (ctx : BuildContext) (r : Record) (steps : List EngineStep) : Prop where
  /-- Each step does what it does where the names exist that the steps before it leave. -/
  does {i : Nat} {step : EngineStep} (h : steps[i]? = some step) : ∃ outcome,
    (runAll ctx r steps)[i]? = some (outcome, recordAt ctx r steps (i + 1)) ∧
    Does ctx (recordAt ctx r steps i).existing step outcome (recordAt ctx r steps (i + 1)).calls
      (recordAt ctx r steps (i + 1)).existing
  /-- What is left over of a cluster stands in the way of clusters of its name until it is deleted. -/
  leftOver {i j : Nat} {name : String} {step step' : EngineStep} (hij : i < j)
    (hi : steps[i]? = some step) (hb : Builds ctx step name) {create rollback : String}
    {after : Record} (hf : (runAll ctx r steps)[i]? =
      some (.error (.lifecycle (.rollbackFailed create rollback)), after))
    (hkept : ∀ k step, i < k → k < j → steps[k]? = some step → step.action = .delete →
      Builds ctx step name → ∀ after, (runAll ctx r steps)[k]? ≠ some (.ok (), after))
    (hj : steps[j]? = some step') (ha : step'.action = .create) (hb' : Builds ctx step' name) :
    ∃ after, (runAll ctx r steps)[j]? = some (.error (.lifecycle (.alreadyExists name)), after)
  /-- A step that creates a cluster deletes none that existed before it. -/
  spares {i : Nat} {step : EngineStep} (h : steps[i]? = some step) (ha : step.action = .create)
    {name : String} (hd : deleteCall name ∈ (recordAt ctx r steps (i + 1)).calls) :
    name ∉ (recordAt ctx r steps i).existing

/-- In every run, creation is all or nothing. -/
theorem isAllOrNothing_runAll (ctx : BuildContext) (r : Record) (steps : List EngineStep) :
    IsAllOrNothing ctx r steps where
  does {i step} h := by
    refine ⟨(run ctx (recordAt ctx r steps i) step).1, ?_, ?_⟩
    · rw [getElem?_runAll, h, recordAt_succ h]
      rfl
    · rw [recordAt_succ h]
      exact does_run ctx _ step
  leftOver {i j name step step'} hij hi hb create rollback after hf hkept hj ha hb' := by
    have hafter : name ∈ (recordAt ctx r steps (i + 1)).existing := by
      have hdoes := does_run ctx (recordAt ctx r steps i) step
      rw [getElem?_runAll, hi, Option.map_some, Option.some.injEq] at hf
      rw [hf] at hdoes
      rw [recordAt_succ hi, hf]
      exact hdoes.mem_of_rollbackFailed hb
    have hn := mem_recordAt hij hafter hkept
    rw [getElem?_runAll, hj, Option.map_some]
    exact ⟨_, congrArg some (Prod.ext (run_of_mem ha hb' hn) rfl)⟩
  spares {i step} h ha name hd := by
    rw [recordAt_succ h] at hd
    exact (does_run ctx _ step).not_mem_of_delete ha hd

example :
    let a : Options := { name := some "a" }
    (runAll {} (Record.ofNames ["b"]) [
      { action := .create, options := a, failures := { create? := some "x", delete? := some "y" } },
      { action := .create, options := a, failures := {} },
      { action := .delete, options := a, failures := {} },
      { action := .create, options := a, failures := { create? := some "x" } }]).map
        (fun p => (p.1.toOption, p.2.calls, p.2.existing)) = [
      (none, ["create a 1", "delete a"], ["b", "a"]), (none, [], ["b", "a"]),
      (some (), ["delete a"], ["b"]), (none, ["create a 1", "delete a"], ["b"])] := by
  decide +kernel

end ClusterPlan.EngineStep
