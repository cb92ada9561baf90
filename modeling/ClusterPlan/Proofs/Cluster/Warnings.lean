import ClusterPlan.Proofs.Cluster.Placement
import ClusterPlan.Proofs.Filter.Denotation
import ClusterPlan.Proofs.Notice

/-!
# Warnings of attachments

Placing an attachment warns of two things: that it has no filter, and that one of several filters stands for
all nodes (`Attachment.warnings`). It does so whatever was placed before it, so assembling a cluster tells
the warnings of its attachments one after the other (`Cluster.notices_assemble`).
-/

namespace ClusterPlan

/-- The warning that there is no filter, and so all candidates are selected. -/
def Notice.unfiltered (available : Nat) : Notice where
  severity := .warn
  origin := .filters
  text := s!"No node filter specified, selecting all {available} candidates"

/-- The warning that there are filters besides one that stands for all nodes. -/
def Notice.mixed (filters : List String) : Notice where
  severity := .warn
  origin := .filters
  text := s!"Node filter 'all' set, ignoring the others in {Text.quotedList filters}"

/-- The line that warns that there is no filter. -/
def Notice.unfilteredLine (available : Nat) : String :=
  s!"WARN k3dforge::cluster::filter: No node filter specified, selecting all {available} candidates\n"

/-- The text of the warning is shown as it is, whatever the number of candidates. -/
theorem Notice.line_unfiltered (available : Nat) : (unfiltered available).line = unfilteredLine available := by
  have htext : (unfiltered available).text.toList.all isPrintable := by
    have hbefore : "No node filter specified, selecting all ".toList.all isPrintable := by decide +kernel
    have hafter : " candidates".toList.all isPrintable := by decide +kernel
    rw [unfiltered, String.toList_append, String.toList_append, List.all_append, List.all_append,
      all_isPrintable_toString, Bool.and_true, Bool.and_eq_true]
    exact ⟨hbefore, hafter⟩
  -- A line is put together from parts, so the text is cut where these meet.
  have hstart : "WARN k3dforge::cluster::filter: No node filter specified, selecting all " =
      "WARN" ++ " " ++ "k3dforge::cluster::filter" ++ ": " ++
        "No node filter specified, selecting all " := by
    decide +kernel
  have hend : " candidates\n" = " candidates" ++ "\n" := by decide +kernel
  unfold line unfilteredLine
  rw [flatMap_shownChar htext, String.ofList_toList, hstart, hend]
  simp only [toString, unfiltered, Severity.word, Origin.path, String.append_assoc]

namespace Attachment

/-- Whether one of several filters of an attachment stands for all nodes. -/
def MixesAll (a : Attachment) : Prop :=
  1 < a.filters.length ∧ ∃ text ∈ a.filters, IsAll text

instance : DecidablePred MixesAll := fun a =>
  inferInstanceAs (Decidable (1 < a.filters.length ∧ ∃ text ∈ a.filters, IsAll text))

/-- What placing an attachment among some number of candidates warns of. -/
def warnings (available : Nat) (a : Attachment) : List Notice :=
  if a.filters = [] then [.unfiltered available]
  else if a.MixesAll then [.mixed a.filters]
  else []

theorem warnings_eq_nil_iff {available : Nat} {a : Attachment} :
    a.warnings available = [] ↔ a.filters ≠ [] ∧ ¬ a.MixesAll := by
  unfold warnings
  split
  · next h => simp [h]
  · next h => split <;> simp [*]

theorem severity_of_mem_warnings {available : Nat} {a : Attachment} {n : Notice}
    (h : n ∈ a.warnings available) : n.severity = .warn := by
  unfold warnings at h
  split at h
  · rw [List.mem_singleton.1 h]
    rfl
  · split at h
    · rw [List.mem_singleton.1 h]
      rfl
    · cases h

/-- Attachments that do not mix filters warn only of missing ones. -/
theorem flatMap_warnings {available : Nat} {as : List Attachment} (h : ∀ a ∈ as, ¬ a.MixesAll) :
    as.flatMap (warnings available) =
      List.replicate (as.countP (·.filters = [])) (.unfiltered available) := by
  induction as with
  | nil => rfl
  | cons a as ih =>
    obtain ⟨ha, has⟩ := List.forall_mem_cons.1 h
    rw [List.flatMap_cons, ih has, List.countP_cons, warnings, if_neg ha]
    by_cases hf : a.filters = []
    · simp only [hf, if_true, decide_true, List.replicate_succ, List.singleton_append]
    · simp only [hf, if_false, decide_false, List.nil_append, Bool.false_eq_true, Nat.add_zero]

end Attachment

/-! ## Selecting -/

/-- Filters that are all read as filters of roles have none among them that stands for all nodes. -/
theorem not_isAll_of_read_picks {roles : List Role} {texts : List String} {picks : List Pick}
    (h : Selection.read roles texts = .ok (.picks picks)) : ¬ ∃ text ∈ texts, IsAll text := by
  rintro ⟨text, htext, hall⟩
  obtain ⟨s, hs⟩ := isAll_iff.1 hall
  obtain ⟨p, hp⟩ := Outcome.exists_of_forall₂ (Selection.forall₂_of_read h) htext
  rw [hs] at hp
  cases hp

/-- Selecting the nodes of an attachment tells its warnings. -/
theorem notices_select {roles : List Role} {a : Attachment} {chosen : List Nat}
    (h : (select roles a.filters).result = .ok chosen) :
    (select roles a.filters).notices = a.warnings roles.length := by
  unfold select Attachment.warnings at *
  by_cases hf : a.filters = []
  · rw [if_pos hf, if_pos hf]
    rfl
  · rw [if_neg hf] at h ⊢
    rw [if_neg hf]
    cases hread : Selection.read roles a.filters with
    | error e =>
      rw [hread] at h
      cases h
    | ok s =>
      cases s with
      | all text =>
        obtain ⟨hmem, hs⟩ := Selection.mem_of_read_all hread
        have hmixes : a.MixesAll ↔ 1 < a.filters.length :=
          and_iff_left ⟨text, hmem, isAll_iff.2 hs⟩
        have hquiet : (if roles = [] then Noted.fail (.noMatch text)
            else pure (List.range roles.length) : Noted FilterError (List Nat)).notices = [] := by
          split <;> rfl
        dsimp only
        rw [Noted.notices_bind_of_ok (Noted.result_tellIf ..), hquiet, List.append_nil,
          Noted.notices_tellIf]
        simp only [hmixes, decide_eq_true_eq, Notice.mixed]
      | picks picks =>
        rw [if_neg fun hmix : a.MixesAll => not_isAll_of_read_picks hread hmix.2]
        dsimp only
        split <;> rfl

namespace Cluster

open Attachment (warnings)
open Draft (HasRoles)

variable {p : Plan} {d d' : Draft} {a : Attachment}

/-! ## Attaching -/

namespace Draft

theorem notices_ask {candidates : List Node} {chosen : List Nat}
    (h : (ask roleResolver d candidates a).result = .ok chosen) :
    (ask roleResolver d candidates a).notices = a.warnings candidates.length := by
  rw [← List.length_map (f := Node.role)]
  exact notices_select (ask_eq_ok_iff.1 h)

theorem notices_attachVolume (hd : HasRoles p d)
    (h : (attachVolume roleResolver d a).result = .ok d') :
    (attachVolume roleResolver d a).notices = a.warnings (nodeRoles p).length := by
  rw [attachVolume] at h ⊢
  obtain ⟨chosen, hask, -⟩ := Noted.bind_eq_ok_iff.1 h
  rw [Noted.notices_bind_pure, notices_ask hask, ← hd.nodes, List.length_map]

theorem notices_attachPort (hd : HasRoles p d)
    (h : (attachPort roleResolver d a).result = .ok d') :
    (attachPort roleResolver d a).notices = a.warnings (addressableRoles p).length := by
  unfold attachPort at h ⊢
  dsimp only at h ⊢
  split at h
  · obtain ⟨_, hfail, -⟩ := Noted.bind_eq_ok_iff.1 h
    cases hfail
  · next hone =>
    obtain ⟨chosen, hask, -⟩ := Noted.bind_eq_ok_iff.1 h
    rw [if_neg hone, Noted.notices_bind_pure, notices_ask hask, ← hd.addressable, List.length_map]

end Draft

/-- Assembling a cluster tells what is attached, and the warnings of each volume and port. -/
theorem notices_assemble {c : Cluster} (h : (assemble roleResolver p).result = .ok c) :
    (assemble roleResolver p).notices =
      ⟨.debug, .assembly, s!"Volume attachments: {p.volumes.shown}"⟩ ::
        p.volumes.entries.flatMap (warnings c.nodes.length) ++
      ⟨.debug, .assembly, s!"Port attachments: {p.ports.shown}"⟩ ::
        p.ports.entries.flatMap (warnings c.addressable.length) := by
  rw [assemble] at h ⊢
  obtain ⟨_, -, h⟩ := Noted.bind_eq_ok_iff.1 h
  obtain ⟨d, hd, h⟩ := Noted.bind_eq_ok_iff.1 h
  obtain ⟨_, -, h⟩ := Noted.bind_eq_ok_iff.1 h
  obtain ⟨d', hd', hc⟩ := Noted.bind_eq_ok_iff.1 h
  obtain rfl : d'.cluster = c := Except.ok.inj hc
  -- Attaching keeps the roles, so that each attachment meets as many candidates as the cluster has.
  have hstart := Draft.hasRoles_skeleton p
  have hroles := Draft.kept_of_foldlM HasRoles.attachVolume hstart hd
  have hroles' := Draft.kept_of_foldlM HasRoles.attachPort hroles hd'
  have hvolumes : (p.volumes.entries.foldlM (Draft.attachVolume roleResolver) ⟨skeleton p, []⟩).notices =
      p.volumes.entries.flatMap (warnings d'.cluster.nodes.length) := by
    rw [← List.length_map (f := Node.role), hroles'.nodes]
    exact Noted.notices_foldlM hd hstart HasRoles.attachVolume Draft.notices_attachVolume
  have hports : (p.ports.entries.foldlM (Draft.attachPort roleResolver) d).notices =
      p.ports.entries.flatMap (warnings d'.cluster.addressable.length) := by
    rw [← List.length_map (f := Node.role), hroles'.addressable]
    exact Noted.notices_foldlM hd' hroles HasRoles.attachPort Draft.notices_attachPort
  rw [Noted.notices_bind_of_ok rfl, Noted.notices_bind_of_ok hd, Noted.notices_bind_of_ok rfl,
    Noted.notices_bind_pure, hvolumes, hports]
  rfl

end Cluster
end ClusterPlan
