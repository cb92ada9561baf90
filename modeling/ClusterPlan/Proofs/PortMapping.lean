import ClusterPlan.Proofs.PortMapping.Grammar

/-!
# The one form of a port mapping

`PortMapping.text` is one of the ways in which a mapping is written (`PortMapping.Written.text`), and the one
that `PortMapping.normal` gives for all of them: `PortMapping.normalizes_normal` says that it accepts what is
written as a mapping and nothing else, that two texts have one form exactly if they mean the same, and that
their form means it too.
-/

namespace ClusterPlan

namespace PortRange

theorem isPort_digits {n : Nat} (h₁ : 1 ≤ n) (h₂ : n < 65536) : IsPort (Decimal.digits n) n :=
  ⟨Decimal.natural?_eq_some_iff.1 (Decimal.natural?_digits h₂), by omega⟩

/-- The text of a range is one of the ways in which the range is written. -/
theorem written_text (r : PortRange) : Written r.text r := by
  have hle := r.first_le_last
  have hlt := r.last_lt
  have hfirst := isPort_digits r.one_le_first (by omega)
  have hlast := isPort_digits (Nat.le_trans r.one_le_first hle) hlt
  unfold text
  split
  · next heq => exact .port hfirst heq.symm
  · exact .range hfirst hlast

end PortRange

namespace PortMapping

variable {cs : List Char} {m : PortMapping}

/-- What stands before the protocol in the text of a mapping. -/
def portsText (m : PortMapping) : List Char :=
  (match m.host? with
    | some host => host.toList ++ [':']
    | none => []) ++
  (match m.hostPorts?, m.host? with
    | some ports, _ => ports.text ++ [':']
    | none, some _ => [':']
    | none, none => []) ++ m.containerPorts.text

theorem toList_text (m : PortMapping) : m.text.toList =
    m.portsText ++ if m.protocol = .tcp then [] else '/' :: m.protocol.word.toList := by
  rw [text, String.toList_ofList]
  rfl

theorem slash_not_mem_text (r : PortRange) : '/' ∉ r.text :=
  r.written_text.not_mem (by decide) (by decide) (by decide)

/-- Ports that are written in one of the shapes are written in the same shape in the text of their
mapping, and with no slash where there was none. -/
theorem Shape.portsText (h : Shape cs m.host? m.hostPorts? m.containerPorts) (hslash : '/' ∉ cs) :
    Shape m.portsText m.host? m.hostPorts? m.containerPorts ∧ '/' ∉ m.portsText := by
  obtain ⟨host?, hostPorts?, ports, protocol⟩ := m
  cases h with
  | container hc =>
    refine ⟨?_, by simp [PortMapping.portsText, slash_not_mem_text]⟩
    simpa [PortMapping.portsText] using Shape.container ports.written_text
  | @published _ _ hostPorts _ hp hc =>
    refine ⟨?_, by simp [PortMapping.portsText, slash_not_mem_text]⟩
    simpa [PortMapping.portsText] using Shape.published hostPorts.written_text ports.written_text
  | @hosted host p c _ _ hne hcolon hp hc =>
    have hhost : '/' ∉ host.toList := fun hm => hslash (List.mem_append_left _ hm)
    refine ⟨?_, ?_⟩
    · cases hp with
      | absent =>
        simpa [PortMapping.portsText] using
          Shape.hosted hne hcolon .absent ports.written_text
      | @present _ hostPorts hp =>
        simpa [PortMapping.portsText] using
          Shape.hosted hne hcolon (.present hostPorts.written_text) ports.written_text
    · cases hp <;> simp [PortMapping.portsText, slash_not_mem_text, hhost]

theorem protocolWritten_word (p : Protocol) :
    ProtocolWritten (if p = .tcp then [] else '/' :: p.word.toList) p := by
  cases p with
  | tcp => exact .absent
  | udp => exact .word (by decide +kernel)
  | sctp => exact .word (by decide +kernel)

/-- The text of a mapping is one of the ways in which the mapping is written, if there is one. -/
theorem Written.text (h : Written cs m) : Written m.text.toList m := by
  obtain ⟨hslash, hshape, -, hsizes⟩ := h
  obtain ⟨hports, hnone⟩ := hshape.portsText hslash
  rw [toList_text]
  exact .mapping hnone hports (protocolWritten_word m.protocol) hsizes

/-- The text of a mapping that was read is read as the mapping. -/
theorem read_text {mapping : String} (h : read mapping = .ok m) : read m.text = .ok m :=
  read_eq_ok_iff.2 (read_eq_ok_iff.1 h).text

/-! ## The form of a text -/

/-- The one form of what a text maps. -/
def normal (mapping : String) : Except PortError String :=
  (read mapping).map PortMapping.text

theorem normal_of_written {s : String} (h : Written s.toList m) : normal s = .ok m.text := by
  rw [normal, read_eq_ok_iff.2 h]
  rfl

/-- Whether `form` accepts exactly the texts that are written as mappings, and gives two of them one form
exactly if they mean the same. -/
structure Normalizes (form : String → Except PortError String) : Prop where
  exists_iff {s : String} : (∃ f, form s = .ok f) ↔ ∃ m, Written s.toList m
  /-- A text has at most one meaning. -/
  unique {s : String} {m m' : PortMapping} (h : Written s.toList m) (h' : Written s.toList m') : m = m'
  eq_iff {s s' : String} {m m' : PortMapping} (h : Written s.toList m) (h' : Written s'.toList m') :
    form s = form s' ↔ m = m'
  /-- A form means what the text means. -/
  written {s f : String} {m : PortMapping} (hf : form s = .ok f) (h : Written s.toList m) :
    Written f.toList m
  /-- A form is its own form. -/
  fixed {s f : String} (hf : form s = .ok f) : form f = .ok f

theorem normalizes_normal : Normalizes normal where
  exists_iff {s} := by
    simp only [← read_eq_ok_iff, normal, Outcome.map_eq_ok_iff]
    constructor
    · rintro ⟨_, m, hm, -⟩
      exact ⟨m, hm⟩
    · rintro ⟨m, hm⟩
      exact ⟨m.text, m, hm, rfl⟩
  unique h h' := by
    rw [← read_eq_ok_iff] at h h'
    exact Except.ok.inj (h.symm.trans h')
  eq_iff {s s' m m'} h h' := by
    rw [normal_of_written h, normal_of_written h']
    constructor
    · intro he
      have htext : m.text = m'.text := Except.ok.inj he
      have hm := read_eq_ok_iff.2 h.text
      rw [htext, read_eq_ok_iff.2 h'.text] at hm
      exact (Except.ok.inj hm).symm
    · rintro rfl
      rfl
  written hf h := by
    rw [normal_of_written h] at hf
    obtain rfl := Except.ok.inj hf
    exact h.text
  fixed hf := by
    obtain ⟨m, hm, rfl⟩ := Outcome.map_eq_ok_iff.1 hf
    exact normal_of_written (read_eq_ok_iff.1 hm).text

/-- A range of one port, a sign, zeros and a protocol in letters of either case. -/
example : normal "0.0.0.0:08080-8080:+080/ScTp" = .ok "0.0.0.0:8080:80/sctp" := by
  decide +kernel

end PortMapping
end ClusterPlan
