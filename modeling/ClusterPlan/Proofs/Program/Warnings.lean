import ClusterPlan.Proofs.Cluster.Warnings
import ClusterPlan.Proofs.Program

/-!
# What a run shows unasked

A run that is not asked to tell more shows warnings and errors only. Loading and checking options tells
neither (`Program.tellsOnly_loadOptions`, `Plan.tellsOnly_ofOptions`), so a run that succeeds shows the
warnings of its attachments and then how to use the cluster (`Program.warnsOf_of_read`). It shows nothing
but the latter exactly if each attachment has a filter and none combines one for all nodes with others.
-/

namespace ClusterPlan

/-- Whether a notice matters less than a warning. -/
def Notice.IsMinor (n : Notice) : Prop :=
  Severity.warn.rank < n.severity.rank

theorem Notice.isMinor {s : Severity} (h : Severity.warn.rank < s.rank) {o : Origin} {t : String} :
    Notice.IsMinor ⟨s, o, t⟩ := h

namespace Plan

/-- Making a plan warns of nothing. -/
theorem tellsOnly_ofOptions (around : Surroundings) (o : Options) :
    (ofOptions around o).TellsOnly Notice.IsMinor := by
  have hinfo {t : String} : Notice.IsMinor ⟨.info, .options, t⟩ := Notice.isMinor (by decide)
  have hdebug {t : String} : Notice.IsMinor ⟨.debug, .options, t⟩ := Notice.isMinor (by decide)
  unfold ofOptions
  refine .bind (.ofExcept _) fun _ => .bind (.tellIf hinfo) fun _ => .bind (.ofExcept _) fun _ =>
    .bind (.ofExcept _) fun _ => ?_
  dsimp only
  split
  · exact .bind (.ofExcept _) fun _ => .bind (.ofExcept _) fun _ => .bind (.ofExcept _) fun _ =>
      .bind (.ofExcept _) fun _ => .bind (.ofExcept _) fun _ => .bind (.ofExcept _) fun _ =>
      .bind (.tellIf hdebug) fun _ => .ofExcept _
  · exact .bind (.ofExcept _) fun _ => .bind (.ofExcept _) fun _ => .bind (.ofExcept _) fun _ =>
      .bind (.ofExcept _) fun _ => .bind (.ofExcept _) fun _ => .bind (.tellIf hdebug) fun _ => .ofExcept _

end Plan

namespace Program

open CommandLine

variable {env : Environment} {inv : Invocation}

/-- Loading options warns of nothing. -/
theorem tellsOnly_loadOptions (env : Environment) (named? : Option String) :
    (loadOptions env named?).TellsOnly Notice.IsMinor := by
  cases named? with
  | some path => exact .ofExcept _
  | none =>
    unfold loadOptions
    dsimp only
    split
    · exact .bind (.tell (Notice.isMinor (by decide))) fun _ => .ofExcept _
    · exact .ofExcept _

/-! ## What is shown -/

/-- What a run shows that is not asked to tell more. -/
def unasked : NoticeFilter :=
  NoticeFilter.ofVerbosity 0

theorem filter_unasked_of_tellsOnly {ε α : Type} {x : Noted ε α} (h : x.TellsOnly Notice.IsMinor) :
    x.notices.filter unasked.shows = [] := by
  refine List.filter_eq_nil_iff.2 fun n hn => ?_
  rw [unasked, NoticeFilter.shows_ofVerbosity, decide_eq_true_eq]
  exact Nat.not_le.2 (h n hn)

theorem filter_unasked_warnings (available : Nat) (as : List Attachment) :
    (as.flatMap (·.warnings available)).filter unasked.shows = as.flatMap (·.warnings available) := by
  refine List.filter_eq_self.2 fun n hn => ?_
  obtain ⟨a, -, hn⟩ := List.mem_flatMap.1 hn
  rw [unasked, NoticeFilter.shows_ofVerbosity, Attachment.severity_of_mem_warnings hn]
  rfl

/-- The warnings of what is attached in a cluster. -/
def warnings (p : Plan) (c : Cluster) : List Notice :=
  p.volumes.entries.flatMap (·.warnings c.nodes.length) ++
    p.ports.entries.flatMap (·.warnings c.addressable.length)

theorem warnings_eq_nil_iff {p : Plan} {c : Cluster} : warnings p c = [] ↔
    ∀ a ∈ p.volumes.entries ++ p.ports.entries, a.filters ≠ [] ∧ ¬ a.MixesAll := by
  simp only [warnings, List.append_eq_nil_iff, List.flatMap_eq_nil_iff, Attachment.warnings_eq_nil_iff,
    List.forall_mem_append]

/-- Building a cluster shows the warnings of what is attached in it. -/
theorem filter_unasked_build {o : Options} {p : Plan} {c : Cluster}
    (hp : (Plan.ofOptions {} o).result = .ok p) (hc : (Cluster.build {} o).result = .ok c) :
    (Cluster.build {} o).notices.filter unasked.shows = warnings p c := by
  have hplan : ((Plan.ofOptions {} o).mapError BuildError.plan).result = .ok p :=
    Outcome.mapError_eq_ok_iff.2 hp
  obtain ⟨p', hp', hassemble⟩ := Noted.bind_eq_ok_iff.1 hc
  cases hplan.symm.trans hp'
  have hassemble := Outcome.mapError_eq_ok_iff.1 hassemble
  have hnotices : (Cluster.build {} o).notices =
      (Plan.ofOptions {} o).notices ++ (Cluster.assemble roleResolver p).notices :=
    Noted.notices_bind_of_ok hplan
  rw [hnotices, List.filter_append, filter_unasked_of_tellsOnly (Plan.tellsOnly_ofOptions {} o),
    Cluster.notices_assemble hassemble, List.nil_append, List.cons_append, List.filter_cons,
    List.filter_append, List.filter_cons, filter_unasked_warnings, filter_unasked_warnings]
  rfl

/-- What a run shows besides its cluster, if it is not asked to tell more. -/
structure WarnsOf (p : Plan) (c : Cluster) (hint errors : String) : Prop where
  /-- The warnings of attachments are shown on lines of their own, and then how to use the cluster. -/
  eq_append : errors = String.join ((warnings p c).map Notice.line) ++ hint
  /-- Nothing is warned of exactly if each attachment has a filter, and none of several stands for all
  nodes. -/
  eq_hint_iff : errors = hint ↔
    ∀ a ∈ p.volumes.entries ++ p.ports.entries, a.filters ≠ [] ∧ ¬ a.MixesAll
  /-- Where filters for all nodes stand alone, there is a line for each attachment without a filter. -/
  eq_of_unmixed (h : ∀ a ∈ p.volumes.entries ++ p.ports.entries, ¬ a.MixesAll) : errors = String.join
    (List.replicate (p.volumes.entries.countP (·.filters = [])) (Notice.unfilteredLine c.nodes.length) ++
      List.replicate (p.ports.entries.countP (·.filters = []))
        (Notice.unfilteredLine c.addressable.length)) ++ hint

theorem warnsOf_append (p : Plan) (c : Cluster) (hint : String) :
    WarnsOf p c hint (String.join ((warnings p c).map Notice.line) ++ hint) where
  eq_append := rfl
  eq_hint_iff := by
    rw [String.append_eq_right_iff, Notice.join_lines_eq_empty_iff, warnings_eq_nil_iff]
  eq_of_unmixed h := by
    obtain ⟨hvolumes, hports⟩ := List.forall_mem_append.1 h
    rw [warnings, Attachment.flatMap_warnings hvolumes, Attachment.flatMap_warnings hports,
      List.map_append, List.map_replicate, List.map_replicate, Notice.line_unfiltered, Notice.line_unfiltered]

/-- A run that creates a cluster and is not asked to tell more shows the warnings of its attachments. -/
theorem warnsOf_of_read {args : List String} (h : Invocation.read env.optionsFile? args = .ok inv)
    (hverbosity : inv.verbosity = 0) (hfilter : env.noticeFilter? = none)
    (hexit : (run env args).exitCode = 0) :
    ∃ o p c, Loads env inv.config? o ∧ (Plan.ofOptions {} (o.override inv.options)).result = .ok p ∧
      (Cluster.build {} (o.override inv.options)).result = .ok c ∧
      WarnsOf p c (c.usageHint p.kubeconfig env.program false) (run env args).errors := by
  rw [run_of_read h] at hexit ⊢
  cases hw : (work env inv).result with
  | error e =>
    rw [(create_of_error hw).1] at hexit
    cases hexit
  | ok w =>
    obtain ⟨o, p, ho, hp, hc, hk⟩ := work_eq_ok_iff.1 hw
    refine ⟨o, p, w.cluster, ho, hp, hc, ?_⟩
    have hshown : showNotices (NoticeFilter.choose env.noticeFilter? inv.verbosity) (work env inv).notices =
        String.join ((warnings p w.cluster).map Notice.line) := by
      have hload := filter_unasked_of_tellsOnly (tellsOnly_loadOptions env inv.config?)
      have hbuild := filter_unasked_build hp hc
      have hchoose : NoticeFilter.choose env.noticeFilter? inv.verbosity = unasked := by
        rw [hverbosity, hfilter]
        rfl
      rw [hchoose, notices_work ho, showNotices, List.filter_append, hload, hbuild, List.nil_append]
    rw [create_of_ok hw]
    dsimp only
    rw [hshown, hk]
    exact warnsOf_append ..

/-- A run with a volume from a file and a port that have no filter, and a volume that mixes filters. -/
theorem exists_warnsOf : ∃ env inv,
    Invocation.read env.optionsFile? ["create", "-p", "80:80", "-v=/b@master;all", "-v", "/c@all"] =
      .ok inv ∧
    inv.verbosity = 0 ∧ env.noticeFilter? = none ∧
    (run env ["create", "-p", "80:80", "-v=/b@master;all", "-v", "/c@all"]).exitCode = 0 ∧
    (run env ["create", "-p", "80:80", "-v=/b@master;all", "-v", "/c@all"]).errors =
      "WARN k3dforge::cluster::filter: No node filter specified, selecting all 1 candidates\n" ++
      "WARN k3dforge::cluster::filter: Node filter 'all' set, ignoring the others in " ++
        "[\"master\", \"all\"]\n" ++
      "WARN k3dforge::cluster::filter: No node filter specified, selecting all 1 candidates\n" ++
      "You can now use it like this:\n" ++
      "export KUBECONFIG=$(k3dforge kubeconfig get k3s-default)\nkubectl cluster-info\n" ∧
    ∃ p c, WarnsOf p c (c.usageHint p.kubeconfig env.program false)
      (run env ["create", "-p", "80:80", "-v=/b@master;all", "-v", "/c@all"]).errors := by
  let text := "\x7b \"no-lb\": true, \"volumes\": [\"/a\"] \x7d"
  let env : Environment := {
    program := "k3dforge", home := ".", optionsFile? := some "a.json", noticeFilter? := none
    contentOf := fun path => if path = "a.json" then .ok text else .error .missing }
  let inv : Invocation := {
    verbosity := 0, config? := some "a.json", output := .yaml
    options := { volumes := ["/b@master;all", "/c@all"], ports := ["80:80"] } }
  have hread : Invocation.read env.optionsFile?
      ["create", "-p", "80:80", "-v=/b@master;all", "-v", "/c@all"] = .ok inv := by decide +kernel
  have hexit : (run env ["create", "-p", "80:80", "-v=/b@master;all", "-v", "/c@all"]).exitCode = 0 := by
    decide +kernel
  obtain ⟨-, p, c, -, -, -, hwarns⟩ := warnsOf_of_read hread rfl rfl hexit
  exact ⟨env, inv, hread, rfl, rfl, hexit, by decide +kernel, p, c, hwarns⟩

/-- A run whose only attachment has no filter warns of it, although it is not asked to tell more. -/
theorem exists_warned_run : ∃ env inv p c,
    Invocation.read env.optionsFile? ["create", "--volume", "/a:/a"] = .ok inv ∧
    inv.verbosity = 0 ∧ env.noticeFilter? = none ∧ Loads env inv.config? {} ∧
    (Plan.ofOptions {} (Options.override {} inv.options)).result = .ok p ∧
    p.volumes.entries = [{ spec := "/a:/a", filters := [] }] ∧ p.ports.entries = [] ∧
    (Cluster.build {} (Options.override {} inv.options)).result = .ok c ∧
    (run env ["create", "--volume", "/a:/a"]).exitCode = 0 ∧
    (run env ["create", "--volume", "/a:/a"]).errors =
      "WARN k3dforge::cluster::filter: No node filter specified, selecting all 1 candidates\n" ++
        c.usageHint p.kubeconfig env.program false ∧
    (run env ["create", "--volume", "/a:/a"]).errors ≠ c.usageHint p.kubeconfig env.program false := by
  let env : Environment := {
    program := "k3dforge", home := ".", optionsFile? := none, noticeFilter? := none
    contentOf := fun _ => .error .missing }
  let inv : Invocation := {
    verbosity := 0, config? := none, output := .yaml, options := { volumes := ["/a:/a"] } }
  let hint := "You can now use it like this:\n" ++
    "export KUBECONFIG=$(k3dforge kubeconfig get k3s-default)\nkubectl cluster-info\n"
  have hread : Invocation.read env.optionsFile? ["create", "--volume", "/a:/a"] = .ok inv := by
    decide +kernel
  obtain ⟨p, hp, hparts⟩ : ∃ p, (Plan.ofOptions {} (Options.override {} inv.options)).result = .ok p ∧
      (p.volumes.entries, p.ports.entries, p.kubeconfig) =
        ([{ spec := "/a:/a", filters := [] }], [], { update := false, switchContext := false }) :=
    Outcome.exists_of_toOption_map (by decide +kernel)
  obtain ⟨c, hc, hhint⟩ : ∃ c, (Cluster.build {} (Options.override {} inv.options)).result = .ok c ∧
      c.usageHint { update := false, switchContext := false } env.program false = hint :=
    Outcome.exists_of_toOption_map (by decide +kernel)
  simp only [Prod.mk.injEq] at hparts
  obtain ⟨hvolumes, hports, hkubeconfig⟩ := hparts
  refine ⟨env, inv, p, c, hread, rfl, rfl, .nothing (by decide +kernel), hp, hvolumes, hports, hc, ?_⟩
  rw [hkubeconfig, hhint]
  decide +kernel

end Program
end ClusterPlan
