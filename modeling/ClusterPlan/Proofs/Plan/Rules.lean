import ClusterPlan.Proofs.Attachment
import ClusterPlan.Proofs.Name
import ClusterPlan.Proofs.Plan

/-!
# The rules for options

What options must meet, said one rule after the other without the plan that is made of them
(`Plan.Rule.Holds`), and the error that tells of each broken rule (`Plan.Rule.Reports`).
`Plan.result_ofOptions_iff` says that a plan is made exactly if all rules hold, and that otherwise the
first broken rule is reported. It follows the stages of `Plan.ofOptions`: each stage checks some of the
rules (`Plan.Checks`), and stages one after the other check theirs one after the other
(`Plan.Checks.bind`).
-/

namespace ClusterPlan

/-- How many nodes options ask for, where one master is standard. -/
def Options.nodesAsked (o : Options) : Int :=
  (o.masters.map Int64.toInt).getD 1 + (o.workers.map Int64.toInt).getD 0

namespace Plan

/-- A text that is a duration longer than none, with no minus sign before it. -/
structure IsTimeout (text : String) : Prop where
  unsigned : (Text.trim text.toList).head? ≠ some '-'
  positive : ∃ d, Duration.read (String.ofList (Text.trim text.toList)) = .ok d ∧ 0 < d.nanoseconds

/-- A rule for options. -/
inductive Rule where
  | name
  | masters
  | workers
  | hostNetwork
  | timeout
  | api
  | volume (flag : String)
  | port (flag : String)
  /-- The mapping of the port flag at a position is for one filter, and not given before. -/
  | mapping (i : Nat)

/-- The rules for options, the first to be checked first. -/
def rules (o : Options) : List Rule :=
  .name :: .masters :: .workers :: .hostNetwork :: .timeout :: .api ::
    (o.volumes.map Rule.volume ++
      (o.ports.map Rule.port ++ (List.range o.ports.length).map Rule.mapping))

variable (around : Surroundings) (o : Options)

/-- What a rule demands. -/
def Rule.Holds : Rule → Prop
  | .name => IsClusterName (o.name.getD "k3s-default").toList
  | .masters => ∀ n, o.masters = some n → 0 ≤ n.toInt
  | .workers => ∀ n, o.workers = some n → 0 ≤ n.toInt
  | .hostNetwork => o.network = some "host" → o.nodesAsked ≤ 1
  | .timeout => ∀ text, o.timeout = some text → IsTimeout text
  | .api => ∃ e, ApiEndpoint.read (o.apiPort.getD "random") = .ok e
  | .volume flag => ∃ a, AsksForVolume around flag a
  | .port flag => ∃ a, AsksForPort flag a
  | .mapping i => ∀ flag a, o.ports[i]? = some flag → AsksForPort flag a →
    a.filters.length ≤ 1 ∧ ∀ flag' ∈ o.ports.take i, ¬ ∃ b, AsksForPort flag' b ∧ b.spec = a.spec

/-- The error that tells of a broken rule. -/
inductive Rule.Reports : Rule → PlanError → Prop where
  | name {e : NameError} (h : NameFault (o.name.getD "k3s-default") e) : Reports .name (.name e)
  | masters {n : Int64} (h : o.masters = some n) : Reports .masters (.negativeCount "masters" n.toInt)
  | workers {n : Int64} (h : o.workers = some n) : Reports .workers (.negativeCount "workers" n.toInt)
  | hostNetwork {n : Nat} (h : n = o.nodesAsked) : Reports .hostNetwork (.hostNetworkMultipleNodes n)
  | unreadableTimeout {text : String} {reason : DurationError} (h : o.timeout = some text)
    (hr : Duration.read (String.ofList (magnitude text)) = .error reason) :
    Reports .timeout (.invalidTimeout text reason)
  | nonPositiveTimeout {text : String} {d : Duration} (h : o.timeout = some text)
    (hr : Duration.read (String.ofList (magnitude text)) = .ok d) :
    Reports .timeout (.nonPositiveTimeout text)
  | api {e : ApiPortError} (h : ApiEndpoint.read (o.apiPort.getD "random") = .error e) :
    Reports .api (.api e)
  | volumeFilter {flag : String} {e : FilterError} (h : Flag.split flag = .error e) :
    Reports (.volume flag) (.filter e)
  | mount {flag : String} {f : Flag} {e : MountError} (h : Flag.split flag = .ok f)
    (hr : Mount.read around.isVolume f.object = .error e) : Reports (.volume flag) (.mount e)
  | portFilter {flag : String} {e : FilterError} (h : Flag.split flag = .error e) :
    Reports (.port flag) (.filter e)
  | port {flag : String} {f : Flag} {e : PortError} (h : Flag.split flag = .ok f)
    (hr : PortMapping.read f.object = .error e) : Reports (.port flag) (.port e)
  | manyFilters {i : Nat} {flag : String} {a : Attachment} (h : o.ports[i]? = some flag)
    (ha : AsksForPort flag a) (hf : 1 < a.filters.length) :
    Reports (.mapping i) (.attachment (.tooManyPortFilters a.spec a.filters.length))
  | duplicate {i : Nat} {flag : String} {a : Attachment} (h : o.ports[i]? = some flag)
    (ha : AsksForPort flag a) (hf : a.filters.length ≤ 1) :
    Reports (.mapping i) (.attachment (.duplicatePort a.spec))

/-- The first broken rule of a list, and the error that tells of it. -/
inductive FirstBroken : List Rule → PlanError → Prop where
  | here {r : Rule} {rs : List Rule} {e : PlanError} (hb : ¬ r.Holds around o)
    (hr : r.Reports around o e) : FirstBroken (r :: rs) e
  | later {r : Rule} {rs : List Rule} {e : PlanError} (hh : r.Holds around o)
    (h : FirstBroken rs e) : FirstBroken (r :: rs) e

variable {around o}

theorem firstBroken_cons_iff {r : Rule} {rs : List Rule} {e : PlanError} :
    FirstBroken around o (r :: rs) e ↔
      ¬ r.Holds around o ∧ r.Reports around o e ∨ r.Holds around o ∧ FirstBroken around o rs e := by
  constructor
  · intro h
    cases h with
    | here hb hr => exact .inl ⟨hb, hr⟩
    | later hh h => exact .inr ⟨hh, h⟩
  · rintro (⟨hb, hr⟩ | ⟨hh, h⟩)
    · exact .here hb hr
    · exact .later hh h

theorem not_firstBroken_nil {e : PlanError} : ¬ FirstBroken around o [] e := nofun

/-- The first broken rule of two lists is that of the first list, or that of the second one if all rules
of the first list hold. -/
theorem firstBroken_append_iff {rs rs' : List Rule} {e : PlanError} :
    FirstBroken around o (rs ++ rs') e ↔
      FirstBroken around o rs e ∨ (∀ r ∈ rs, r.Holds around o) ∧ FirstBroken around o rs' e := by
  induction rs with
  | nil => simp [not_firstBroken_nil]
  | cons r rs ih =>
    rw [List.cons_append, firstBroken_cons_iff, firstBroken_cons_iff, ih, List.forall_mem_cons,
      and_assoc, and_or_left, or_assoc]

/-! ## Checks -/

variable (around o) in
/-- What a computation checks: it succeeds exactly if the rules hold, and fails exactly as the first
broken one of them is reported. -/
structure Checks {α : Type} (rs : List Rule) (x : Except PlanError α) : Prop where
  exists_ok_iff : (∃ a, x = .ok a) ↔ ∀ r ∈ rs, r.Holds around o
  eq_error_iff {e : PlanError} : x = .error e ↔ FirstBroken around o rs e

namespace Checks

variable {α β : Type} {rs rs' : List Rule}

theorem ok (a : α) : Checks around o [] (.ok a) where
  exists_ok_iff := ⟨fun _ _ h => absurd h List.not_mem_nil, fun _ => ⟨a, rfl⟩⟩
  eq_error_iff := ⟨nofun, fun h => absurd h not_firstBroken_nil⟩

/-- A computation that checks one rule. -/
theorem one {r : Rule} {x : Except PlanError α} (hok : (∃ a, x = .ok a) ↔ r.Holds around o)
    (herr : ¬ r.Holds around o → ∀ e, x = .error e ↔ r.Reports around o e) :
    Checks around o [r] x where
  exists_ok_iff := by rw [hok, List.forall_mem_singleton]
  eq_error_iff {e} := by
    rw [firstBroken_cons_iff, or_iff_left fun h => not_firstBroken_nil h.2]
    by_cases hr : r.Holds around o
    · obtain ⟨a, rfl⟩ := hok.2 hr
      exact ⟨nofun, fun h => absurd hr h.1⟩
    · rw [and_iff_right hr, herr hr]

/-- Two computations one after the other check their rules one after the other. -/
theorem bind {x : Except PlanError α} {f : α → Except PlanError β} (hx : Checks around o rs x)
    (hf : ∀ a, x = .ok a → Checks around o rs' (f a)) : Checks around o (rs ++ rs') (x.bind f) := by
  cases x with
  | error e =>
    have hnot : ¬ ∀ r ∈ rs, r.Holds around o := fun hall => by
      obtain ⟨_, h⟩ := hx.exists_ok_iff.2 hall
      cases h
    refine ⟨⟨nofun, fun hall => ?_⟩, ?_⟩
    · exact absurd (List.forall_mem_append.1 hall).1 hnot
    · simp [firstBroken_append_iff, hnot, ← hx.eq_error_iff, Except.bind]
  | ok a =>
    have hall : ∀ r ∈ rs, r.Holds around o := hx.exists_ok_iff.1 ⟨a, rfl⟩
    have hfirst : ∀ e, ¬ FirstBroken around o rs e := fun e h => nomatch hx.eq_error_iff.2 h
    constructor
    · rw [List.forall_mem_append, and_iff_right hall]
      exact (hf a rfl).exists_ok_iff
    · intro e
      rw [firstBroken_append_iff, or_iff_right (hfirst e), and_iff_right hall]
      exact (hf a rfl).eq_error_iff

/-- What is made of a value afterwards is not checked. -/
theorem bind_ok {x : Except PlanError α} (hx : Checks around o rs x) (f : α → β) :
    Checks around o rs (x.bind fun a => .ok (f a)) := by
  rw [← List.append_nil rs]
  exact hx.bind fun a _ => .ok (f a)

/-- A computation for each element of a list checks the rules for the elements in their order. -/
theorem mapM {f : String → Except PlanError β} {rule : String → Rule}
    (hf : ∀ s, Checks around o [rule s] (f s)) (l : List String) :
    Checks around o (l.map rule) (l.mapM f) := by
  induction l with
  | nil => exact .ok []
  | cons s l ih =>
    rw [List.mapM_cons, List.map_cons, ← List.singleton_append]
    exact (hf s).bind fun b _ => ih.bind_ok fun bs => b :: bs

end Checks

/-! ## The stages of a plan -/

theorem checks_name :
    Checks around o [.name] ((checkName (o.name.getD defaultName)).mapError .name) := by
  refine .one ⟨fun ⟨_, h⟩ => ?_, fun h => ⟨(), ?_⟩⟩ fun _ e => ⟨fun h => ?_, fun h => ?_⟩
  · exact checkName_eq_ok_iff.1 (Outcome.mapError_eq_ok_iff.1 h)
  · exact Outcome.mapError_eq_ok_iff.2 (checkName_eq_ok_iff.2 h)
  · obtain ⟨e, he, rfl⟩ := Outcome.mapError_eq_error_iff.1 h
    exact .name (checkName_eq_error_iff.1 he)
  · cases h with
    | name h => exact Outcome.mapError_eq_error_iff.2 ⟨_, checkName_eq_error_iff.2 h, rfl⟩

/-- A count is checked not to be negative. -/
theorem checks_count {option : String} {standard : Nat} {v : Option Int64} {r : Rule}
    (hh : r.Holds around o ↔ ∀ n, v = some n → 0 ≤ n.toInt)
    (hr : ∀ e, r.Reports around o e ↔ ∃ n, v = some n ∧ e = .negativeCount option n.toInt) :
    Checks around o [r] (count option standard v) := by
  refine .one ?_ fun hnot e => ?_
  · simp only [hh, count_eq_ok_iff]
    cases v with
    | none => exact ⟨fun _ => nofun, fun _ => ⟨standard, rfl⟩⟩
    | some n =>
      simp only [Option.map_some, Option.getD_some, Option.some.injEq, forall_eq']
      exact ⟨fun ⟨a, ha⟩ => ha ▸ Int.natCast_nonneg a, Int.eq_ofNat_of_zero_le⟩
  · rw [hr, count_eq_error_iff]
    refine exists_congr fun n => and_congr_right fun hv => and_iff_right ?_
    rw [hh] at hnot
    refine Int.not_le.1 fun hpos => hnot fun m hm => ?_
    rw [hv] at hm
    cases hm
    exact hpos

theorem checks_masters : Checks around o [.masters] (count "masters" 1 o.masters) := by
  refine checks_count Iff.rfl fun e => ⟨fun h => ?_, ?_⟩
  · cases h with
    | masters h => exact ⟨_, h, rfl⟩
  · rintro ⟨n, h, rfl⟩
    exact .masters h

theorem checks_workers : Checks around o [.workers] (count "workers" 0 o.workers) := by
  refine checks_count Iff.rfl fun e => ⟨fun h => ?_, ?_⟩
  · cases h with
    | workers h => exact ⟨_, h, rfl⟩
  · rintro ⟨n, h, rfl⟩
    exact .workers h

theorem isHost_ofName_iff {network : Option String} :
    (Network.ofName (network.getD "")).isHost ↔ network = some "host" := by
  cases network with
  | none => decide
  | some n => simp [Network.ofName, Network.isHost, Network.hostName]

/-- Where the nodes join the network of their host, their number is checked before what follows. -/
theorem checks_hostNetwork {m w : Nat} (hm : count "masters" 1 o.masters = .ok m)
    (hw : count "workers" 0 o.workers = .ok w) {rs : List Rule} {α : Type} {x : Except PlanError α}
    (hx : Checks around o rs x) :
    Checks around o ([.hostNetwork] ++ rs)
      (if (Network.ofName (o.network.getD "")).isHost ∧ 1 < m + w then
        .error (.hostNetworkMultipleNodes (m + w)) else x) := by
  have hsum : o.nodesAsked = (m + w : Nat) := by
    rw [Options.nodesAsked, Int.natCast_add, ← count_eq_ok_iff.1 hm, ← count_eq_ok_iff.1 hw]
    rfl
  have hholds : Rule.Holds around o .hostNetwork ↔
      ¬ ((Network.ofName (o.network.getD "")).isHost ∧ 1 < m + w) := by
    rw [Rule.Holds, isHost_ofName_iff, hsum, not_and, Nat.not_lt]
    exact imp_congr_right fun _ => Int.ofNat_le
  -- All that follows stands in one branch of the conditional; as a check of its own it comes before.
  have hone : Checks around o [.hostNetwork]
      (if (Network.ofName (o.network.getD "")).isHost ∧ 1 < m + w then
        .error (.hostNetworkMultipleNodes (m + w)) else .ok ()) := by
    refine .one ?_ fun hnot e => ?_
    · rw [hholds]
      split
      · next hc => exact ⟨nofun, fun h => absurd hc h⟩
      · next hc => exact ⟨fun _ => hc, fun _ => ⟨(), rfl⟩⟩
    · rw [if_pos (not_not.1 (mt hholds.2 hnot)), Except.error.injEq]
      constructor
      · rintro rfl
        exact .hostNetwork hsum.symm
      · intro h
        cases h with
        | hostNetwork h => rw [Int.ofNat_inj.1 (h.trans hsum)]
  convert hone.bind fun _ _ => hx using 1
  split <;> rfl

theorem checks_timeout : Checks around o [.timeout] (o.timeout.mapM timeout) := by
  cases ho : o.timeout with
  | none =>
    refine .one ⟨fun _ => ?_, fun _ => ⟨none, rfl⟩⟩ fun hnot => absurd ?_ hnot <;>
    · intro text htext
      cases ho.symm.trans htext
  | some text =>
    have hholds : Rule.Holds around o .timeout ↔ ∃ d, timeout text = .ok d := by
      simp only [Rule.Holds, ho, Option.some.injEq, forall_eq', timeout_eq_ok_iff]
      exact ⟨fun ⟨hs, d, hd⟩ => ⟨d, hs, hd⟩, fun ⟨d, hs, hd⟩ => ⟨hs, d, hd⟩⟩
    simp only [Option.mapM_some, map_eq_pure_bind]
    refine .one ?_ fun hnot e => ?_
    · simp only [hholds, Outcome.bind_eq_ok_iff]
      exact ⟨fun ⟨_, d, hd, _⟩ => ⟨d, hd⟩, fun ⟨d, hd⟩ => ⟨_, d, hd, rfl⟩⟩
    · rw [Outcome.bind_eq_error_iff, timeout_eq_error_iff]
      constructor
      · rintro ((⟨reason, hr, rfl⟩ | ⟨d, hr, -, rfl⟩) | ⟨_, _, h⟩)
        · exact .unreadableTimeout ho hr
        · exact .nonPositiveTimeout ho hr
        · cases h
      · intro h
        cases h with
        | unreadableTimeout ht hr =>
          cases ho.symm.trans ht
          exact .inl (.inl ⟨_, hr, rfl⟩)
        | @nonPositiveTimeout _ d ht hr =>
          cases ho.symm.trans ht
          refine .inl (.inr ⟨d, hr, ?_, rfl⟩)
          by_contra hpos
          refine hnot (hholds.2 ⟨d, ?_⟩)
          rw [timeout_eq, hr]
          exact if_neg hpos

theorem checks_endpoint (network : Network) :
    Checks around o [.api] (endpoint network o.apiPort) := by
  refine .one ?_ fun _ e => ?_
  · simp only [endpoint, Outcome.bind_eq_ok_iff, Outcome.mapError_eq_ok_iff]
    exact ⟨fun ⟨_, e, he, _⟩ => ⟨e, he⟩, fun ⟨e, he⟩ => ⟨_, e, he, rfl⟩⟩
  · simp only [endpoint, Outcome.bind_eq_error_iff, Outcome.mapError_eq_error_iff]
    constructor
    · rintro (⟨e, he, rfl⟩ | ⟨_, _, h⟩)
      · exact .api he
      · cases h
    · intro h
      cases h with
      | api he => exact .inl ⟨_, he, rfl⟩

theorem checks_volume (flag : String) : Checks around o [.volume flag] (volume around flag) := by
  refine .one (exists_congr fun _ => volume_eq_ok_iff) fun _ e => ?_
  refine attachmentOf_eq_error_iff.trans ⟨?_, fun h => ?_⟩
  · rintro (⟨fault, hf, rfl⟩ | ⟨f, fault, hf, hm, rfl⟩)
    · exact .volumeFilter hf
    · exact .mount hf hm
  · cases h with
    | volumeFilter hf => exact .inl ⟨_, hf, rfl⟩
    | mount hf hm => exact .inr ⟨_, _, hf, hm, rfl⟩

theorem checks_port (flag : String) : Checks around o [.port flag] (port flag) := by
  refine .one (exists_congr fun _ => port_eq_ok_iff) fun _ e => ?_
  refine attachmentOf_eq_error_iff.trans ⟨?_, fun h => ?_⟩
  · rintro (⟨fault, hf, rfl⟩ | ⟨f, fault, hf, hp, rfl⟩)
    · exact .portFilter hf
    · exact .port hf hp
  · cases h with
    | portFilter hf => exact .inl ⟨_, hf, rfl⟩
    | port hf hp => exact .inr ⟨_, _, hf, hp, rfl⟩

/-- The specifications that flags ask for. -/
theorem exists_asksForPort_iff {flags : List String} {ps : List Attachment} {spec : String}
    (h : List.Forall₂ (fun flag a => port flag = .ok a) flags ps) :
    (∃ flag ∈ flags, ∃ a, AsksForPort flag a ∧ a.spec = spec) ↔ spec ∈ ps.map Attachment.spec := by
  induction h with
  | nil => simp
  | @cons flag a flags ps ha _ ih =>
    have hflag : (∃ b, AsksForPort flag b ∧ b.spec = spec) ↔ spec = a.spec := by
      simp [← port_eq_ok_iff, ha, eq_comm]
    rw [List.exists_mem_cons_iff, hflag, ih, List.map_cons, List.mem_cons]

/-- A port that comes after others is checked against their specifications. -/
theorem checks_insertPort {done rest : List Attachment} {a : Attachment} {m : AttachmentMap}
    (h : o.ports.mapM port = .ok (done ++ a :: rest)) (hm : m.specs = done.map Attachment.spec) :
    Checks around o [.mapping done.length] ((m.insertPort a).mapError .attachment) := by
  rw [Outcome.mapM_eq_ok_iff] at h
  have htake := List.forall₂_take done.length h
  have hdrop := List.forall₂_drop done.length h
  rw [List.take_left] at htake
  rw [List.drop_left] at hdrop
  obtain ⟨flag, flags, hport, -, hflag⟩ := List.forall₂_cons_right_iff.1 hdrop
  replace hflag : o.ports[done.length]? = some flag := by
    rw [← List.head?_drop, hflag, List.head?_cons]
  have hasks {b : Attachment} : AsksForPort flag b ↔ b = a := by
    rw [← port_eq_ok_iff, hport, Except.ok.injEq, eq_comm]
  have hholds : Rule.Holds around o (.mapping done.length) ↔
      a.filters.length ≤ 1 ∧ a.spec ∉ m.specs := by
    rw [hm, ← exists_asksForPort_iff htake]
    simp only [Rule.Holds, hflag, Option.some.injEq]
    constructor
    · rintro h
      obtain ⟨hl, hs⟩ := h flag a rfl (hasks.2 rfl)
      exact ⟨hl, fun ⟨flag', hmem, hb⟩ => hs flag' hmem hb⟩
    · rintro ⟨hl, hs⟩ _ b rfl hb
      rw [hasks.1 hb]
      exact ⟨hl, fun flag' hmem hb => hs ⟨flag', hmem, hb⟩⟩
  refine .one ?_ fun hnot e => ?_
  · simp only [hholds, Outcome.mapError_eq_ok_iff, AttachmentMap.insertPort_eq_ok_iff]
    exact ⟨fun ⟨_, hl, hs, _⟩ => ⟨hl, hs⟩, fun ⟨hl, hs⟩ => ⟨⟨m.entries ++ [a]⟩, hl, hs, rfl⟩⟩
  · simp only [Outcome.mapError_eq_error_iff, AttachmentMap.insertPort_eq_error_iff]
    constructor
    · rintro ⟨_, ⟨hl, rfl⟩ | ⟨hl, -, rfl⟩, rfl⟩
      · exact .manyFilters hflag (hasks.2 rfl) hl
      · exact .duplicate hflag (hasks.2 rfl) hl
    · intro h
      cases h with
      | manyFilters hf ha hl =>
        cases hflag.symm.trans hf
        cases hasks.1 ha
        exact ⟨_, .inl ⟨hl, rfl⟩, rfl⟩
      | duplicate hf ha hl =>
        cases hflag.symm.trans hf
        cases hasks.1 ha
        have hs : a.spec ∈ m.specs := by_contra fun hs => hnot (hholds.2 ⟨hl, hs⟩)
        exact ⟨_, .inr ⟨hl, hs, rfl⟩, rfl⟩

/-- Ports that come after others are checked one after the other. -/
theorem checks_foldlM_insertPort {done rest : List Attachment} {m : AttachmentMap}
    (h : o.ports.mapM port = .ok (done ++ rest)) (hm : m.specs = done.map Attachment.spec) :
    Checks around o ((List.range' done.length rest.length).map .mapping)
      ((rest.foldlM AttachmentMap.insertPort m).mapError .attachment) := by
  induction rest generalizing done m with
  | nil => exact .ok m
  | cons a rest ih =>
    rw [List.foldlM_cons, Outcome.mapError_bind, List.length_cons, List.range'_succ, List.map_cons,
      ← List.singleton_append]
    refine (checks_insertPort h hm).bind fun m' hm' => ?_
    have hins := (AttachmentMap.insertPort_eq_ok_iff.1 (Outcome.mapError_eq_ok_iff.1 hm')).2.2
    have hlen : (done ++ [a]).length = done.length + 1 := by simp
    rw [← hlen]
    refine ih (by rwa [List.append_assoc]) ?_
    rw [AttachmentMap.specs, hins, List.map_append, List.map_append, ← hm]
    rfl

theorem checks_ofPorts {ps : List Attachment} (h : o.ports.mapM port = .ok ps) :
    Checks around o ((List.range o.ports.length).map .mapping)
      ((AttachmentMap.ofPorts ps).mapError .attachment) := by
  have hlen : o.ports.length = ps.length := (Outcome.mapM_eq_ok_iff.1 h).length_eq
  have h' : o.ports.mapM port = .ok ([] ++ ps) := h
  rw [hlen, List.range_eq_range']
  exact checks_foldlM_insertPort h' rfl

theorem checks_ofOptions : Checks around o (rules o) (ofOptions around o).result := by
  simp only [ofOptions, Noted.result_bind, Noted.result_ofExcept, Noted.result_tellIf]
  -- `[r] ++ rs` computes to `r :: rs`, so the stages fit the list of rules one by one.
  refine checks_name.bind fun _ _ => ?_
  refine checks_masters.bind fun m hm => checks_workers.bind fun w hw => ?_
  rw [apply_ite Noted.result]
  simp only [Noted.result_bind, Noted.result_fail, Noted.result_ofExcept, Noted.result_tellIf]
  refine checks_hostNetwork hm hw <|
    checks_timeout.bind fun _ _ => (checks_endpoint _).bind fun _ _ => ?_
  refine (Checks.mapM checks_volume _).bind fun vs _ => ?_
  refine (Checks.mapM checks_port _).bind fun ps hps => ?_
  exact (checks_ofPorts hps).bind_ok _

/-- A plan is made of options if they meet all rules; otherwise the first rule that they break is
reported. -/
theorem result_ofOptions_iff (around : Surroundings) (o : Options) :
    ((∃ p, (ofOptions around o).result = .ok p) ↔ ∀ r ∈ rules o, r.Holds around o) ∧
      ∀ e, (ofOptions around o).result = .error e ↔ FirstBroken around o (rules o) e :=
  ⟨checks_ofOptions.exists_ok_iff, fun _ => checks_ofOptions.eq_error_iff⟩

end Plan
end ClusterPlan
