import ClusterPlan.PortMapping
import ClusterPlan.Proofs.Outcome
import ClusterPlan.Proofs.Text.Casing
import ClusterPlan.Proofs.Text.Numeral

/-!
# The grammar of port mappings

How port mappings are written, said without the reader: `PortRange.Written` for a port or a range of ports,
`PortMapping.Shape` for what stands before the protocol, and `PortMapping.Written` for a whole mapping.
`PortRange.read?_eq_some_iff` and `PortMapping.read_eq_ok_iff` say that the readers accept exactly what is
written this way, with the meaning it has there.
-/

namespace ClusterPlan

/-! ## Ports -/

namespace PortRange

/-- How a port is written: as a number of 16 bits that is not zero. -/
def IsPort (cs : List Char) (n : Nat) : Prop := Decimal.IsNatural 65536 cs n ∧ n ≠ 0

/-- How a range is written: as one port, or as two ports with a dash between them. -/
inductive Written : List Char → PortRange → Prop where
  | port {cs : List Char} {r : PortRange} (h : IsPort cs r.first) (hr : r.last = r.first) : Written cs r
  | range {a b : List Char} {r : PortRange} (ha : IsPort a r.first) (hb : IsPort b r.last) :
    Written (a ++ '-' :: b) r

variable {cs : List Char} {r : PortRange} {n first last : Nat} {c : Char}

theorem port?_eq_some_iff : port? cs = some n ↔ IsPort cs n := by
  simp only [port?, Option.filter_eq_some_iff, Decimal.natural?_eq_some_iff, decide_eq_true_eq, IsPort]

theorem ofPorts?_eq_some_iff : ofPorts? first last = some r ↔ r.first = first ∧ r.last = last := by
  constructor
  · intro h
    unfold ofPorts? at h
    split at h
    · cases h
      exact ⟨rfl, rfl⟩
    · cases h
  · rintro ⟨rfl, rfl⟩
    exact dif_pos ⟨r.one_le_first, r.first_le_last, r.last_lt⟩

theorem Written.not_mem (h : Written cs r) (hd : c.isDigit = false) (hp : c ≠ '+') (hm : c ≠ '-') :
    c ∉ cs := by
  cases h with
  | port h _ => exact h.1.not_mem hd hp
  | range ha hb => simp [ha.1.not_mem hd hp, hb.1.not_mem hd hp, hm]

theorem Written.ne_nil (h : Written cs r) : cs ≠ [] := by
  cases h with
  | port h _ => exact h.1.ne_nil
  | range _ _ => simp

/-- The ranges that are read are those that are written as ranges. -/
theorem read?_eq_some_iff : read? cs = some r ↔ Written cs r := by
  constructor
  · intro h
    unfold read? at h
    split at h
    · next a b hcut =>
      obtain ⟨rfl, -⟩ := Text.cut_eq_some_iff.1 hcut
      simp only [Option.bind_eq_bind, Option.bind_eq_some_iff, port?_eq_some_iff,
        ofPorts?_eq_some_iff] at h
      obtain ⟨_, ha, _, hb, rfl, rfl⟩ := h
      exact .range ha hb
    · simp only [Option.bind_eq_bind, Option.bind_eq_some_iff, port?_eq_some_iff,
        ofPorts?_eq_some_iff] at h
      obtain ⟨_, h, rfl, hr⟩ := h
      exact .port h hr
  · intro h
    cases h with
    | port h hr =>
      have hcut : Text.cut '-' cs = none :=
        Text.cut_eq_none_iff.2 (h.1.not_mem (by decide) (by decide))
      simp only [read?, hcut, port?_eq_some_iff.2 h, Option.bind_eq_bind, Option.bind_some]
      exact ofPorts?_eq_some_iff.2 ⟨rfl, hr⟩
    | @range a b _ ha hb =>
      have hcut : Text.cut '-' (a ++ '-' :: b) = some (a, b) :=
        Text.cut_eq_some_iff.2 ⟨rfl, ha.1.not_mem (by decide) (by decide)⟩
      simp only [read?, hcut, port?_eq_some_iff.2 ha, port?_eq_some_iff.2 hb, Option.bind_eq_bind,
        Option.bind_some]
      exact ofPorts?_eq_some_iff.2 ⟨rfl, rfl⟩

/-- How a range that may be left out is written. -/
inductive OptionalWritten : List Char → Option PortRange → Prop where
  | absent : OptionalWritten [] none
  | present {cs : List Char} {r : PortRange} (h : Written cs r) : OptionalWritten cs (some r)

end PortRange

/-! ## Mappings -/

namespace PortMapping

/-- What stands before the protocol of a mapping: the ports of the container, the ports of the host and
those of the container, or the address of the host and these, where the ports of the host may be left out. -/
inductive Shape : List Char → Option String → Option PortRange → PortRange → Prop where
  | container {c : List Char} {ports : PortRange} (hc : PortRange.Written c ports) : Shape c none none ports
  | published {p c : List Char} {hostPorts ports : PortRange} (hp : PortRange.Written p hostPorts)
    (hc : PortRange.Written c ports) : Shape (p ++ ':' :: c) none (some hostPorts) ports
  | hosted {host : String} {p c : List Char} {hostPorts? : Option PortRange} {ports : PortRange}
    (hne : host ≠ "") (hcolon : ':' ∉ host.toList) (hp : PortRange.OptionalWritten p hostPorts?)
    (hc : PortRange.Written c ports) :
    Shape (host.toList ++ ':' :: (p ++ ':' :: c)) (some host) hostPorts? ports

/-- How the protocol of a mapping is written: after a slash, in letters of either case, or not at all if it
is `tcp`. -/
inductive ProtocolWritten : List Char → Protocol → Prop where
  | absent : ProtocolWritten [] .tcp
  | word {cs : List Char} {p : Protocol} (h : cs.map Char.toLower = p.word.toList) :
    ProtocolWritten ('/' :: cs) p

/-- Whether the ports of the host and of the container are of one size if both are more than one port. -/
def SizesAgree (m : PortMapping) : Prop :=
  ∀ ports, m.hostPorts? = some ports → ports.first < ports.last →
    m.containerPorts.first < m.containerPorts.last →
    ports.last - ports.first = m.containerPorts.last - m.containerPorts.first

/-- How a mapping is written. The first slash is the one before the protocol. -/
inductive Written : List Char → PortMapping → Prop where
  | mapping {ports protocol : List Char} {m : PortMapping} (hslash : '/' ∉ ports)
    (hports : Shape ports m.host? m.hostPorts? m.containerPorts)
    (hprotocol : ProtocolWritten protocol m.protocol) (hsizes : m.SizesAgree) :
    Written (ports ++ protocol) m

variable {cs : List Char} {m : PortMapping} {p : Protocol}

theorem protocol?_eq_some_iff {word : List Char} : protocol? word = some p ↔ word = p.word.toList := by
  constructor
  · intro h
    unfold protocol? at h
    split_ifs at h with htcp hudp hsctp
    · cases h
      exact htcp
    · cases h
      exact hudp
    · cases h
      exact hsctp
  · rintro rfl
    cases p <;> decide +kernel

theorem isPlain_word (p : Protocol) : ∀ c ∈ p.word.toList, Text.IsPlain c := by
  have hplain : p.word.toList.all fun c => c.toNat < 128 && c != 'k' := by
    cases p <;> decide +kernel
  intro c hc
  have hc := List.all_eq_true.1 hplain c hc
  simp only [Bool.and_eq_true, decide_eq_true_eq, bne_iff_ne] at hc
  exact hc

theorem protocol?_toLower_eq_some_iff {word : List Char} :
    protocol? (Text.toLower word) = some p ↔ word.map Char.toLower = p.word.toList := by
  rw [protocol?_eq_some_iff, Text.toLower_eq_iff (isPlain_word p)]

theorem Shape.colon_not_mem_port {c : List Char} {ports : PortRange} (h : PortRange.Written c ports) :
    ':' ∉ c :=
  h.not_mem (by decide) (by decide) (by decide)

/-- A text has one of the shapes if its parts are those of the shape and can be read. -/
theorem shape_iff {host? : Option String} {hostPorts? : Option PortRange} {ports : PortRange} :
    Shape cs host? hostPorts? ports ↔ ∃ hostPort container,
      parts? cs = some (host?.map String.toList, hostPort, container) ∧
        hostPort.map PortRange.read? = hostPorts?.map some ∧
        PortRange.read? container = some ports := by
  constructor
  · intro h
    unfold parts?
    cases h with
    | container hc =>
      rw [Text.fields_of_not_mem (Shape.colon_not_mem_port hc)]
      exact ⟨none, cs, rfl, rfl, PortRange.read?_eq_some_iff.2 hc⟩
    | @published p c _ _ hp hc =>
      rw [Text.fields_eq_two_iff.2
        ⟨rfl, Shape.colon_not_mem_port hp, Shape.colon_not_mem_port hc⟩]
      refine ⟨some p, c, if_neg hp.ne_nil, ?_, PortRange.read?_eq_some_iff.2 hc⟩
      exact congrArg some (PortRange.read?_eq_some_iff.2 hp)
    | @hosted host p c _ _ hne hcolon hp hc =>
      have hhost : host.toList ≠ [] := by simpa using hne
      cases hp with
      | absent =>
        rw [Text.fields_eq_three_iff.2
          ⟨rfl, hcolon, List.not_mem_nil, Shape.colon_not_mem_port hc⟩]
        exact ⟨none, c, if_neg hhost, rfl, PortRange.read?_eq_some_iff.2 hc⟩
      | present hp =>
        rw [Text.fields_eq_three_iff.2
          ⟨rfl, hcolon, Shape.colon_not_mem_port hp, Shape.colon_not_mem_port hc⟩]
        refine ⟨some p, c, ?_, ?_, PortRange.read?_eq_some_iff.2 hc⟩
        · simp [hhost, hp.ne_nil]
        · exact congrArg some (PortRange.read?_eq_some_iff.2 hp)
  · rintro ⟨hostPort, container, hparts, hhost, hc⟩
    rw [PortRange.read?_eq_some_iff] at hc
    unfold parts? at hparts
    split at hparts
    · next c hf =>
      obtain ⟨rfl, -⟩ := Text.fields_eq_one_iff.1 hf
      simp only [Option.some.injEq, Prod.mk.injEq] at hparts
      obtain ⟨hnone, rfl, rfl⟩ := hparts
      obtain rfl : host? = none := Option.map_eq_none_iff.1 hnone.symm
      obtain rfl : hostPorts? = none := Option.map_eq_none_iff.1 hhost.symm
      exact .container hc
    · next p c hf =>
      obtain ⟨rfl, -⟩ := Text.fields_eq_two_iff.1 hf
      split_ifs at hparts
      simp only [Option.some.injEq, Prod.mk.injEq] at hparts
      obtain ⟨hnone, rfl, rfl⟩ := hparts
      obtain rfl : host? = none := Option.map_eq_none_iff.1 hnone.symm
      obtain ⟨hostPorts, rfl, hp⟩ := Option.map_eq_some_iff.1 hhost.symm
      exact .published (PortRange.read?_eq_some_iff.1 hp.symm) hc
    · next h p c hf =>
      obtain ⟨rfl, hcolon, -⟩ := Text.fields_eq_three_iff.1 hf
      have hne : h ≠ [] := by
        rintro rfl
        cases hparts
      simp only [if_neg hne, Option.some.injEq, Prod.mk.injEq] at hparts
      obtain ⟨hsome, rfl, rfl⟩ := hparts
      obtain ⟨host, rfl, rfl⟩ := Option.map_eq_some_iff.1 hsome.symm
      refine .hosted (by simpa using hne) hcolon ?_ hc
      by_cases hp : p = []
      · subst hp
        obtain rfl : hostPorts? = none := Option.map_eq_none_iff.1 hhost.symm
        exact .absent
      · rw [if_neg hp] at hhost
        obtain ⟨hostPorts, rfl, hp⟩ := Option.map_eq_some_iff.1 hhost.symm
        exact .present (PortRange.read?_eq_some_iff.1 hp.symm)
    · cases hparts

theorem sizesAgree_iff_of_some {host? : Option String} {hostPorts ports : PortRange} :
    SizesAgree ⟨host?, some hostPorts, ports, p⟩ ↔
      ¬ (hostPorts.extent ≠ 0 ∧ ports.extent ≠ 0 ∧ hostPorts.extent ≠ ports.extent) := by
  simp only [SizesAgree, PortRange.extent, Option.some.injEq, forall_eq']
  omega

/-- What is read before the protocol is what has one of the shapes. -/
theorem readPorts_eq_ok_iff {mapping : String} : readPorts mapping p cs = .ok m ↔
    Shape cs m.host? m.hostPorts? m.containerPorts ∧ m.protocol = p ∧ m.SizesAgree := by
  obtain ⟨host?, hostPorts?, ports, protocol⟩ := m
  rw [readPorts, shape_iff]
  simp only [Outcome.bind_eq_ok_iff, Outcome.elim_eq_ok_iff, Prod.exists]
  constructor
  · rintro ⟨host, hostPort, container, hparts, c, hc, h⟩
    have hhost : (host.map String.ofList).map String.toList = host := by
      simp [Function.comp_def]
    cases hostPort with
    | none =>
      cases h
      exact ⟨⟨none, container, hhost.symm ▸ hparts, rfl, hc⟩, rfl, nofun⟩
    | some hostPort =>
      obtain ⟨hostPorts, hp, h⟩ := Outcome.bind_eq_ok_iff.1 h
      split at h
      · cases h
      · next hsizes =>
        cases h
        have hread : PortRange.read? hostPort = some hostPorts := Outcome.elim_eq_ok_iff.1 hp
        exact ⟨⟨some hostPort, container, hhost.symm ▸ hparts, congrArg some hread, hc⟩, rfl,
          sizesAgree_iff_of_some.2 hsizes⟩
  · rintro ⟨⟨hostPort, container, hparts, hports, hc⟩, rfl, hsizes⟩
    have hhost : (host?.map String.toList).map String.ofList = host? := by
      simp [Function.comp_def]
    refine ⟨_, hostPort, container, hparts, ports, hc, ?_⟩
    rw [hhost]
    cases hostPort with
    | none =>
      obtain rfl : hostPorts? = none := Option.map_eq_none_iff.1 hports.symm
      rfl
    | some hostPort =>
      obtain ⟨hostPorts, rfl, hp⟩ := Option.map_eq_some_iff.1 hports.symm
      refine Outcome.bind_eq_ok_iff.2 ⟨hostPorts, Outcome.elim_eq_ok_iff.2 hp.symm, ?_⟩
      rw [if_neg (sizesAgree_iff_of_some.1 hsizes)]
      rfl

/-- The mappings that are read are those that are written as mappings. -/
theorem read_eq_ok_iff {mapping : String} : read mapping = .ok m ↔ Written mapping.toList m := by
  constructor
  · intro h
    unfold read at h
    split at h
    · next hcut =>
      obtain ⟨hshape, hp, hsizes⟩ := readPorts_eq_ok_iff.1 h
      have hprotocol : ProtocolWritten [] m.protocol := hp ▸ ProtocolWritten.absent
      rw [← List.append_nil mapping.toList]
      exact .mapping (Text.cut_eq_none_iff.1 hcut) hshape hprotocol hsizes
    · next ports word hcut =>
      obtain ⟨hm, hslash⟩ := Text.cut_eq_some_iff.1 hcut
      dsimp only at h
      split at h
      · cases h
      · next protocol hprotocol =>
        obtain ⟨hshape, rfl, hsizes⟩ := readPorts_eq_ok_iff.1 h
        rw [hm]
        exact .mapping hslash hshape (.word (protocol?_toLower_eq_some_iff.1 hprotocol)) hsizes
  · intro h
    generalize hcs : mapping.toList = cs at h
    obtain ⟨hslash, hshape, hprotocol, hsizes⟩ := h
    have hports : readPorts mapping m.protocol _ = .ok m :=
      readPorts_eq_ok_iff.2 ⟨hshape, rfl, hsizes⟩
    generalize hprot : m.protocol = protocol at hprotocol hports
    cases hprotocol with
    | absent =>
      rw [List.append_nil] at hcs
      rw [read, hcs, Text.cut_eq_none_iff.2 hslash]
      exact hports
    | word hword =>
      rw [read, hcs, Text.cut_eq_some_iff.2 ⟨rfl, hslash⟩]
      simp only [protocol?_toLower_eq_some_iff.2 hword]
      exact hports

end PortMapping
end ClusterPlan
