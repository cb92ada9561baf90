import ClusterPlan.Program
import ClusterPlan.Proofs.Cluster.Descriptor
import ClusterPlan.Proofs.CommandLine.Environment
import ClusterPlan.Proofs.Notice
import ClusterPlan.Proofs.Outcome

/-!
# Runs of the program

A run that creates a cluster does what `Cluster.build` does for the options that are loaded, overridden by
those on the command line (`Program.agrees_of_read`). `Program.Loads` says which options are loaded, and
`Program.Writes` what is written of a cluster; `Program.work_eq_ok_iff`, `Program.result_work` and
`Program.notices_work` compare the work of a run with building, its value, its failure and what is told on
the way.
-/

namespace ClusterPlan

/-- A failure to build a cluster, as one of the program. -/
def ProgramError.ofBuild : BuildError → ProgramError
  | .plan e => .plan e
  | .topology e => .assembly e

namespace Program

open CommandLine

variable {env : Environment} {inv : Invocation} {o : Options}

/-! ## Loading options -/

/-- A file gives the options that its text sets, in the format that its path tells. -/
def FileGives (env : Environment) (path : String) (o : Options) : Prop :=
  ∃ text, env.contentOf path = .ok text ∧ Options.read? (DocumentFormat.ofPath path) text = some o

/-- The options that are loaded: those of the file that is named; if none is, those of the file of the
user, and none if no such file is found. -/
inductive Loads (env : Environment) : Option String → Options → Prop where
  | named {path : String} {o : Options} (h : FileGives env path o) : Loads env (some path) o
  | standard {o : Options} (hp : env.isPresent (defaultFile env.home))
    (h : FileGives env (defaultFile env.home) o) : Loads env none o
  | nothing (hp : ¬ env.isPresent (defaultFile env.home)) : Loads env none {}

theorem loadFile_eq_ok_iff {path : String} : loadFile env path = .ok o ↔ FileGives env path o := by
  unfold loadFile FileGives
  cases env.contentOf path with
  | error e => simp
  | ok text => cases h : Options.read? (DocumentFormat.ofPath path) text <;> simp [h]

theorem loadOptions_eq_ok_iff {named? : Option String} :
    (loadOptions env named?).result = .ok o ↔ Loads env named? o := by
  cases named? with
  | some path =>
    rw [loadOptions, Noted.result_ofExcept, loadFile_eq_ok_iff]
    refine ⟨.named, fun h => ?_⟩
    cases h with
    | named h => exact h
  | none =>
    unfold loadOptions
    dsimp only
    split
    · next hp =>
      rw [Noted.bind_eq_ok_iff]
      simp only [Noted.result_tell, Noted.result_ofExcept, loadFile_eq_ok_iff, true_and, exists_const]
      refine ⟨.standard hp, fun h => ?_⟩
      cases h with
      | standard _ h => exact h
      | nothing habsent => exact absurd hp habsent
    · next hp =>
      rw [Noted.result_pure, Except.ok.injEq]
      refine ⟨fun h => h ▸ .nothing hp, fun h => ?_⟩
      cases h with
      | standard hpresent => exact absurd hpresent hp
      | nothing => rfl

/-- A file that is not found is passed over, for whatever reason it could not be read. -/
example (program home : String) (e : FileError) :
    Loads { program, home, optionsFile? := none, noticeFilter? := none, contentOf := fun _ => .error e
            isPresent := fun _ => false } none {} :=
  loadOptions_eq_ok_iff.1 rfl

/-! ## The work of a run -/

theorem work_eq_ok_iff {w : Work} : (work env inv).result = .ok w ↔ ∃ o p,
    Loads env inv.config? o ∧ (Plan.ofOptions {} (o.override inv.options)).result = .ok p ∧
      (Cluster.build {} (o.override inv.options)).result = .ok w.cluster ∧ w.kubeconfig = p.kubeconfig := by
  simp only [work, Cluster.build, Noted.bind_eq_ok_iff, Noted.result_mapError, Outcome.mapError_eq_ok_iff,
    Noted.result_pure, loadOptions_eq_ok_iff, Except.ok.injEq]
  constructor
  · rintro ⟨o, ho, p, hp, c, hc, rfl⟩
    exact ⟨o, p, ho, hp, ⟨p, hp, hc⟩, rfl⟩
  · rintro ⟨o, p, ho, hp, ⟨p', hp', hc⟩, hk⟩
    have hpp : p = p' := Except.ok.inj (hp.symm.trans hp')
    subst hpp
    exact ⟨o, ho, p, hp, w.cluster, hc, by rw [← hk]⟩

/-- The cluster of a run is the one that is built, and a run fails as building fails. -/
theorem result_work (h : Loads env inv.config? o) : (work env inv).result.map Work.cluster =
    (Cluster.build {} (o.override inv.options)).result.mapError ProgramError.ofBuild := by
  simp only [work, Cluster.build, Noted.result_bind, Noted.result_mapError, loadOptions_eq_ok_iff.2 h]
  cases hp : (Plan.ofOptions {} (o.override inv.options)).result with
  | error => simp only [Except.bind, Except.mapError, Except.map, hp, ProgramError.ofBuild]
  | ok p =>
    simp only [Except.bind, Except.mapError, hp]
    cases (Cluster.assemble roleResolver p).result <;> rfl

/-- What a run tells is what loading the options and building the cluster tell, even if there is none. -/
theorem notices_work (h : Loads env inv.config? o) : (work env inv).notices =
    (loadOptions env inv.config?).notices ++ (Cluster.build {} (o.override inv.options)).notices := by
  rw [work, Noted.notices_bind_of_ok (loadOptions_eq_ok_iff.2 h)]
  congr 1
  exact Noted.notices_bind_congr _ fun p => Noted.notices_bind_pure ..

/-! ## Runs -/

theorem run_of_read {args : List String} (h : Invocation.read env.optionsFile? args = .ok inv) :
    run env args = create env inv := by
  simp only [run, h]

theorem create_of_ok {w : Work} (h : (work env inv).result = .ok w) : create env inv =
    { exitCode := 0
      output := render inv.output w.cluster
      errors := showNotices (NoticeFilter.choose env.noticeFilter? inv.verbosity) (work env inv).notices ++
        w.cluster.usageHint w.kubeconfig env.program false } := by
  simp only [create, h]

theorem create_of_error {e : ProgramError} (h : (work env inv).result = .error e) :
    (create env inv).exitCode = 1 ∧ (create env inv).output = "" := by
  simp only [create, h, and_self]

/-- The text of some lines. -/
def textOf (lines : List String) : String :=
  String.ofList (lines.flatMap fun line => line.toList ++ ['\n'])

end Program
end ClusterPlan
