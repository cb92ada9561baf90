import ClusterPlan.Proofs.Attachment
import ClusterPlan.Proofs.Mount
import ClusterPlan.Proofs.Outcome

/-!
# The one form of a mount

`Mount.normal` gives the text of the mount that a text denotes. It is the same for two texts exactly if
these denote the same mount, and denotes that mount itself (`Mount.isCanonical_normal`), so that the
attachments of a mount are kept in one entry however their flags write it.
-/

namespace ClusterPlan

/-- Two volumes have one entry if they are for the same mount. -/
theorem AttachmentMap.size_ofVolumes_pair (a b : Attachment) :
    (ofVolumes [a, b]).size = if a.spec = b.spec then 1 else 2 := by
  have hspecs : (ofVolumes [a, b]).specs =
      if a.spec = b.spec then [a.spec] else [a.spec, b.spec] := by
    have hfirst : (merge {} a).specs = [a.spec] := rfl
    show ((merge {} a).merge b).specs = _
    rw [specs_merge, hfirst]
    simp [eq_comm]
  have hlen : (ofVolumes [a, b]).size = (ofVolumes [a, b]).specs.length := by
    rw [specs, List.length_map, size]
  rw [hlen, hspecs]
  split <;> rfl

namespace Mount

variable {isVolume : String → Bool} {s s' f f' : String} {m m' : Mount}

/-- A text denotes at most one mount. -/
theorem Written.unique (h : Written isVolume s m) (h' : Written isVolume s m') : m = m' :=
  Except.ok.inj ((read_eq_ok_iff.2 h).symm.trans (read_eq_ok_iff.2 h'))

/-- Mounts that are written somewhere differ in their texts. -/
theorem Written.text_inj (h : Written isVolume s m) (h' : Written isVolume s' m') :
    m.text = m'.text ↔ m = m' := by
  refine ⟨fun htext => ?_, congrArg text⟩
  have hm : Written isVolume m'.text m := htext ▸ h.written_text
  exact hm.unique h'.written_text

/-- The one form of the mount that a text denotes. -/
def normal (isVolume : String → Bool) (mount : String) : Except MountError String :=
  (read isVolume mount).map text

theorem normal_eq_ok_iff : normal isVolume s = .ok f ↔ ∃ m, Written isVolume s m ∧ m.text = f := by
  simp only [normal, Outcome.map_eq_ok_iff, read_eq_ok_iff]

theorem normal_of_written (h : Written isVolume s m) : normal isVolume s = .ok m.text :=
  normal_eq_ok_iff.2 ⟨m, h, rfl⟩

/-- Whether `form` accepts exactly the texts that are written as mounts, tells the first fault of any
other, and gives each mount one form, which is a text of it. -/
structure IsCanonical (isVolume : String → Bool) (form : String → Except MountError String) : Prop where
  exists_iff {s : String} : (∃ f, form s = .ok f) ↔ ∃ m, Written isVolume s m
  eq_error_iff {s : String} {e : MountError} : form s = .error e ↔ Fault isVolume s e
  /-- A text denotes at most one mount. -/
  unique {s : String} {m m' : Mount} (h : Written isVolume s m) (h' : Written isVolume s m') : m = m'
  eq_text {s : String} {m : Mount} (h : Written isVolume s m) : form s = .ok m.text
  eq_iff {s s' : String} {m m' : Mount} (h : Written isVolume s m) (h' : Written isVolume s' m') :
    form s = form s' ↔
      m.source = m'.source ∧ m.destination = m'.destination ∧ m.mode? = m'.mode?
  /-- A form denotes what the text denotes. -/
  written {s f : String} {m : Mount} (hf : form s = .ok f) (h : Written isVolume s m) :
    Written isVolume f m
  /-- A form is its own form. -/
  fixed {s f : String} (hf : form s = .ok f) : form f = .ok f
  /-- Attachments are kept in one entry exactly if their mounts are the same. -/
  size_ofVolumes {s s' f f' : String} {m m' : Mount} (h : Written isVolume s m)
    (h' : Written isVolume s' m') (hf : form s = .ok f) (hf' : form s' = .ok f')
    (filters filters' : List String) :
    (AttachmentMap.ofVolumes [⟨f, filters⟩, ⟨f', filters'⟩]).size = if m = m' then 1 else 2

theorem isCanonical_normal (isVolume : String → Bool) : IsCanonical isVolume (normal isVolume) where
  exists_iff {s} := by
    simp only [normal_eq_ok_iff]
    constructor
    · intro ⟨_, m, hm, _⟩
      exact ⟨m, hm⟩
    · intro ⟨m, hm⟩
      exact ⟨m.text, m, hm, rfl⟩
  eq_error_iff := Outcome.map_eq_error_iff.trans read_eq_error_iff
  unique := Written.unique
  eq_text := normal_of_written
  eq_iff h h' := by
    rw [normal_of_written h, normal_of_written h', Except.ok.injEq, h.text_inj h', Mount.mk.injEq]
  written hf h := by
    rw [normal_of_written h] at hf
    cases hf
    exact h.written_text
  fixed hf := by
    obtain ⟨m, hm, rfl⟩ := normal_eq_ok_iff.1 hf
    exact normal_of_written hm.written_text
  size_ofVolumes h h' hf hf' filters filters' := by
    rw [normal_of_written h] at hf
    rw [normal_of_written h'] at hf'
    cases hf
    cases hf'
    rw [AttachmentMap.size_ofVolumes_pair]
    exact if_congr (h.text_inj h') rfl rfl

/-- A path that is mounted at itself, written in two ways, and one that may only be read. -/
example : (["/a", "/a:/a", "/a:/a:ro"].map (normal fun _ => false)) =
    [.ok "/a:/a", .ok "/a:/a", .ok "/a:/a:ro"] := by
  decide +kernel

end Mount
end ClusterPlan
