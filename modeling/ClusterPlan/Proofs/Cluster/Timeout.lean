import ClusterPlan.Proofs.Cluster.Placement
import ClusterPlan.Proofs.Duration.Millisecond

/-!
# The timeout in the data of a cluster

The data of a cluster holds its timeout in whole milliseconds, as a text in the form in which timeouts are
given. `Cluster.writesTimeout_of_build` says which of the timeouts that options may ask for can be read
back from it: those of at least a millisecond whose milliseconds fit a word as nanoseconds. Shorter ones
are written as no time at all, and longer ones, which only plain seconds can ask for, are refused.
-/

namespace ClusterPlan

/-- The field of a record with a name. -/
def Tree.field? (name : String) : Tree → Option Tree
  | .record fields => fields.lookup name
  | _ => none

namespace Cluster

/-- The timeout in the data of a cluster. -/
def timeoutField? (c : Cluster) : Option Tree :=
  (c.descriptor.field? "createOpts").bind (Tree.field? "timeout")

theorem timeoutField?_eq (c : Cluster) : c.timeoutField? =
    some (c.settings.timeout?.elim .null fun d => .text d.millisecondText) := by
  have hopts : c.descriptor.field? "createOpts" = some c.settings.descriptor := by
    unfold descriptor
    split <;> rfl
  rw [timeoutField?, hopts]
  rfl

theorem timeoutField?_of_map {c : Cluster} {text : String}
    (h : c.settings.timeout?.map Duration.millisecondText = some text) :
    c.timeoutField? = some (.text text) := by
  obtain ⟨d, hd, rfl⟩ := Option.map_eq_some_iff.1 h
  rw [timeoutField?_eq, hd, Option.elim_some]

/-- The timeout that options ask for is in the data of their cluster in whole milliseconds, and these can
be read back as a timeout exactly if there is at least one and if their nanoseconds fit a word. -/
theorem writesTimeout_of_build {ctx : BuildContext} {o : Options} {c : Cluster} {flag : String}
    (h : (build ctx o).result = .ok c) (ht : o.timeout = some flag) :
    ∃ d, Plan.timeout flag = .ok d ∧ 0 < d.nanoseconds ∧
      c.timeoutField? = some (.text d.millisecondText) ∧
      (Duration.IsTimeoutText d.millisecondText ↔
        1000000 ≤ d.nanoseconds ∧ d.milliseconds * 1000000 < Decimal.wordLimit) ∧
      (d.nanoseconds < 1000000 →
        d.millisecondText = "0ms" ∧ Duration.read d.millisecondText = .ok .zero) ∧
      (Decimal.wordLimit ≤ d.milliseconds * 1000000 →
        Duration.read d.millisecondText = .error (.outOfRange d.millisecondText)) := by
  obtain ⟨p, vs, ps, hp, -, -, rfl⟩ := exists_placements_of_build h
  have htimeout := hp.timeout?
  rw [ht, Option.mapM_some, map_eq_pure_bind] at htimeout
  obtain ⟨d, hd, hsome⟩ := Outcome.bind_eq_ok_iff.1 htimeout
  have hsettings : (placed p vs ps).settings.timeout? = some d := (Except.ok.inj hsome).symm
  refine ⟨d, hd, (Plan.timeout_eq_ok_iff.1 hd).2.2, timeoutField?_of_map (by rw [hsettings]; rfl),
    Duration.isTimeoutText_millisecondText_iff, fun hlt => ?_, Duration.read_millisecondText_of_le⟩
  rw [Duration.millisecondText_of_lt hlt]
  exact ⟨rfl, Duration.read_zeroText⟩

/-- A timeout that loses what it has beyond its milliseconds, and that is one all the same. -/
theorem exists_written_timeout : ∃ c,
    (build {} { timeout := some " 1m30.0005s " }).result = .ok c ∧
    Plan.timeout " 1m30.0005s " = .ok ⟨90000500000, by decide⟩ ∧
    c.timeoutField? = some (.text "90000ms") ∧ Duration.IsTimeoutText "90000ms" := by
  obtain ⟨c, h, -⟩ : ∃ c, (build {} { timeout := some " 1m30.0005s " }).result = .ok c ∧
      c.nodes.length = 1 := Outcome.exists_of_toOption_map (by decide +kernel)
  have hflag : Plan.timeout " 1m30.0005s " = .ok ⟨90000500000, by decide⟩ := by decide +kernel
  obtain ⟨d, hd, -, hfield, htext, -⟩ := writesTimeout_of_build h rfl
  have hdur : d = ⟨90000500000, by decide⟩ := Except.ok.inj (hd.symm.trans hflag)
  have hwritten : d.millisecondText = "90000ms" := by
    rw [hdur]
    decide +kernel
  rw [hwritten] at hfield htext
  exact ⟨c, h, hflag, hfield, htext.2 (by rw [hdur]; decide)⟩

/-- Timeouts that are accepted, and whose clusters hold no timeout that could be read back: one that is too
short, and one that is too long. -/
theorem exists_lost_timeout :
    (∃ c, (build {} { timeout := some "1ns" }).result = .ok c ∧
      c.timeoutField? = some (.text "0ms") ∧ ¬ Duration.IsTimeoutText "0ms") ∧
    ∃ c, (build {} { timeout := some "18446744073709551615" }).result = .ok c ∧
      c.timeoutField? = some (.text "18446744073709551615000ms") ∧
      ¬ Duration.IsTimeoutText "18446744073709551615000ms" := by
  constructor
  · obtain ⟨c, h, htext⟩ : ∃ c, (build {} { timeout := some "1ns" }).result = .ok c ∧
        c.settings.timeout?.map Duration.millisecondText = some "0ms" :=
      Outcome.exists_of_toOption_map (by decide +kernel)
    refine ⟨c, h, timeoutField?_of_map htext, ?_⟩
    decide +kernel
  · obtain ⟨c, h, htext⟩ : ∃ c,
        (build {} { timeout := some "18446744073709551615" }).result = .ok c ∧
        c.settings.timeout?.map Duration.millisecondText = some "18446744073709551615000ms" :=
      Outcome.exists_of_toOption_map (by decide +kernel)
    refine ⟨c, h, timeoutField?_of_map htext, ?_⟩
    decide +kernel

end Cluster
end ClusterPlan
