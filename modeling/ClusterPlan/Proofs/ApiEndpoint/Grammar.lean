import ClusterPlan.Proofs.ApiEndpoint
import ClusterPlan.Text.Hexadecimal

/-!
# The grammar of endpoints

How endpoints are written, said without the reader: `ApiPort.Written` for a port and `ApiEndpoint.Written`
for a whole endpoint; `ApiPort.Fault` and `ApiEndpoint.Fault` say what is wrong with any other text.
`ApiEndpoint.acceptsExactly_read` says that the reader accepts exactly what is written as an endpoint, with
the meaning it has there, tells the fault of any other text, and reads what is written of an endpoint as
the same endpoint. Since colons separate the parts of an endpoint, no host is an IPv6 address
(`IsIPv6.two_le_count`).
-/

namespace ClusterPlan

/-! ## Ports -/

namespace ApiPort

/-- How a port is written: as an integer, as the word for any port, or not at all. -/
inductive Written : List Char → ApiPort → Prop where
  | absent : Written [] .random
  | word : Written "random".toList .random
  | number {cs : List Char} {port : UInt16} (h : Decimal.IsInteger cs port.toNat) :
    Written cs (.fixed port)

/-- What is wrong with the text of a port: that it is an integer of 64 bits but no port, or that it is
neither such an integer nor a word for any port. -/
inductive Fault (cs : List Char) : ApiPortError → Prop where
  | outOfRange {n : Int} (h : Decimal.IsInteger cs n)
    (hn : Int64.minValue.toInt ≤ n ∧ n ≤ Int64.maxValue.toInt) (hp : ¬ (0 ≤ n ∧ n ≤ 65535)) :
    Fault cs (.outOfRange n)
  | notANumber (hne : cs ≠ []) (hw : cs ≠ "random".toList)
    (h : ∀ n, Decimal.IsInteger cs n → ¬ (Int64.minValue.toInt ≤ n ∧ n ≤ Int64.maxValue.toInt)) :
    Fault cs (.notANumber (String.ofList cs))

variable {cs : List Char} {port : ApiPort}

/-- A text is written as the port that is read, or has the fault that is told. -/
theorem read_cases (cs : List Char) :
    (∃ port, Written cs port ∧ read cs = .ok port) ∨ ∃ e, Fault cs e ∧ read cs = .error e := by
  unfold read
  split
  · next hany =>
    obtain rfl | rfl := hany
    · exact .inl ⟨_, .absent, rfl⟩
    · exact .inl ⟨_, .word, rfl⟩
  next hany =>
  obtain ⟨hne, hword⟩ := not_or.1 hany
  split
  · next hnone =>
    refine .inr ⟨_, .notANumber hne hword fun n hn hbounds => ?_, rfl⟩
    rw [Decimal.integer?_signedLimit_eq_some_iff.2 ⟨hn, hbounds⟩] at hnone
    cases hnone
  · next n hn =>
    obtain ⟨hint, hbounds⟩ := Decimal.integer?_signedLimit_eq_some_iff.1 hn
    split
    · next hport =>
      have hnat : ((UInt16.ofNat n.toNat).toNat : Int) = n := by
        rw [UInt16.toNat_ofNat_of_lt' (by change n.toNat < 65536; omega)]
        omega
      exact .inl ⟨_, .number (hnat.symm ▸ hint), rfl⟩
    · next hport => exact .inr ⟨_, .outOfRange hint hbounds (by omega), rfl⟩

theorem read_of_isInteger {n : Int} (h : Decimal.IsInteger cs n)
    (hn : Int64.minValue.toInt ≤ n ∧ n ≤ Int64.maxValue.toInt) :
    read cs = if 0 ≤ n ∧ n < 65536 then .ok (.fixed (UInt16.ofNat n.toNat)) else .error (.outOfRange n) := by
  have hint := Decimal.integer?_signedLimit_eq_some_iff.2 ⟨h, hn⟩
  have hany : ¬ (cs = [] ∨ cs = "random".toList) := by
    intro hany
    obtain rfl | rfl := hany
    · cases hint
    · have hnone : Decimal.integer? Decimal.signedLimit "random".toList = none := by decide +kernel
      rw [hnone] at hint
      cases hint
  simp only [read, if_neg hany, hint]

theorem read_eq_ok_iff : read cs = .ok port ↔ Written cs port := by
  refine ⟨(Outcome.of_cases (read_cases cs)).1, fun h => ?_⟩
  cases h with
  | absent => rfl
  | word => rfl
  | @number _ port h =>
    have hlt : port.toNat < 65536 := port.toNat_lt
    have hmin : Int64.minValue.toInt ≤ 0 := by decide
    have hmax : 65535 ≤ Int64.maxValue.toInt := by decide
    rw [read_of_isInteger h ⟨by omega, by omega⟩, if_pos ⟨by omega, by omega⟩, Int.toNat_natCast,
      UInt16.ofNat_toNat]

theorem read_eq_error_iff {e : ApiPortError} : read cs = .error e ↔ Fault cs e := by
  refine ⟨(Outcome.of_cases (read_cases cs)).2, fun h => ?_⟩
  cases h with
  | outOfRange h hn hp => rw [read_of_isInteger h hn, if_neg (by omega)]
  | notANumber hne hw h =>
    have hnone : Decimal.integer? Decimal.signedLimit cs = none := by
      refine Option.eq_none_iff_forall_ne_some.2 fun n hn => ?_
      obtain ⟨hint, hbounds⟩ := Decimal.integer?_signedLimit_eq_some_iff.1 hn
      exact h n hint hbounds
    simp only [read, if_neg (not_or.2 ⟨hne, hw⟩), hnone]

/-- What is written of a port means the port, and holds no colon. -/
theorem written_text (port : ApiPort) : Written port.text.toList port := by
  cases port with
  | random => exact .word
  | fixed port =>
    have hint := Decimal.IsInteger.unsigned (Decimal.isNumeral_digits port.toNat)
    rw [Decimal.value_digits] at hint
    exact .number (by rwa [text, String.toList_ofList])

theorem colon_not_mem_text (port : ApiPort) : ':' ∉ port.text.toList := by
  cases port with
  | random => decide
  | fixed port =>
    rw [text, String.toList_ofList]
    exact (Decimal.isNumeral_digits port.toNat).not_mem rfl

end ApiPort

/-! ## IPv6 addresses -/

/-- A group of an IPv6 address: one to four hexadecimal digits. -/
structure IsHexGroup (cs : List Char) : Prop where
  ne_nil : cs ≠ []
  length_le : cs.length ≤ 4
  isDigit : ∀ c ∈ cs, (Hexadecimal.value? c).isSome

/-- Groups with colons between them that make up a number of words of 16 bits. A dotted quad may stand for
the last two words. -/
inductive IsWords : Nat → List Char → Prop where
  | group {cs : List Char} (h : IsHexGroup cs) : IsWords 1 cs
  | quad {cs : List Char} (h : IsDottedQuad cs) : IsWords 2 cs
  | cons {n : Nat} {cs rest : List Char} (h : IsHexGroup cs) (hr : IsWords n rest) :
    IsWords (n + 1) (cs ++ ':' :: rest)

/-- How an IPv6 address is written: as eight words, or as fewer with two colons that stand for the words
that are left out. -/
inductive IsIPv6 : List Char → Prop where
  | full {cs : List Char} (h : IsWords 8 cs) : IsIPv6 cs
  | compressed {groups : List (List Char)} {n : Nat} {after : List Char} (hg : ∀ g ∈ groups, IsHexGroup g)
    (ha : n = 0 ∧ after = [] ∨ IsWords n after) (hn : groups.length + n < 8) :
    IsIPv6 (Text.join [':'] groups ++ ':' :: ':' :: after)

theorem IsWords.le_count {n : Nat} {cs : List Char} (h : IsWords n cs) : n ≤ cs.count ':' + 2 := by
  induction h with
  | group _ => omega
  | quad _ => omega
  | cons _ _ ih =>
    rw [List.count_append, List.count_cons_self]
    omega

theorem IsIPv6.two_le_count {cs : List Char} (h : IsIPv6 cs) : 2 ≤ cs.count ':' := by
  cases h with
  | full h =>
    have hle := h.le_count
    omega
  | compressed _ _ _ =>
    rw [List.count_append, List.count_cons_self, List.count_cons_self]
    omega

/-! ## Endpoints -/

namespace ApiEndpoint

/-- The host and the port of a text, with a colon between them. A port alone has an empty host. -/
inductive Parts : List Char → List Char → List Char → Prop where
  | port {port : List Char} (hp : ':' ∉ port) : Parts port [] port
  | hosted {host port : List Char} (hh : ':' ∉ host) (hp : ':' ∉ port) :
    Parts (host ++ ':' :: port) host port

/-- How an endpoint is written. Its address is its host if that is a dotted quad, and not known if it is
not. -/
structure Written (spec : String) (e : ApiEndpoint) : Prop where
  exists_parts : ∃ port, Parts spec.toList e.host.toList port ∧ ApiPort.Written port e.port
  hostIP_of_quad (h : IsDottedQuad e.host.toList) : e.hostIP = e.host
  hostIP_of_not_quad (h : ¬ IsDottedQuad e.host.toList) : e.hostIP = ""

/-- What is wrong with the text of an endpoint: that it has too many parts, or what is wrong with its
port. -/
inductive Fault (spec : String) : ApiPortError → Prop where
  | malformed (h : 2 ≤ spec.toList.count ':') : Fault spec (.malformed spec)
  | port {host port : List Char} {e : ApiPortError} (hp : Parts spec.toList host port)
    (h : ApiPort.Fault port e) : Fault spec e

variable {spec : String} {e : ApiEndpoint} {cs host port : List Char}

theorem Parts.not_mem_colon (h : Parts cs host port) : ':' ∉ host := by
  cases h with
  | port _ => exact List.not_mem_nil
  | hosted hh _ => exact hh

/-- A text has a host and a port unless it has more than one colon. -/
theorem exists_parts (h : cs.count ':' < 2) : ∃ host port, Parts cs host port := by
  match hf : Text.fields ':' cs with
  | [] => exact absurd hf (Text.fields_ne_nil ':' cs)
  | [port] =>
    obtain ⟨rfl, hp⟩ := Text.fields_eq_one_iff.1 hf
    exact ⟨[], cs, .port hp⟩
  | [host, port] =>
    obtain ⟨rfl, hh, hp⟩ := Text.fields_eq_two_iff.1 hf
    exact ⟨host, port, .hosted hh hp⟩
  | _ :: _ :: _ :: _ =>
    have hcount := Text.count_of_fields hf
    simp only [List.length_cons] at hcount
    omega

/-- A text with a host and a port is read as its port is. -/
theorem read_of_parts (h : Parts spec.toList host port) :
    read spec = (ApiPort.read port).map (ofHost host) := by
  generalize hcs : spec.toList = cs at h
  cases h with
  | port hp => rw [read, hcs, Text.fields_eq_one_iff.2 ⟨rfl, hp⟩]
  | hosted hh hp => rw [read, hcs, Text.fields_eq_two_iff.2 ⟨rfl, hh, hp⟩]

theorem read_of_two_le_count (h : 2 ≤ spec.toList.count ':') : read spec = .error (.malformed spec) := by
  unfold read
  split
  · next hf =>
    have hcount : spec.toList.count ':' + 1 = 1 := Text.count_of_fields hf
    omega
  · next hf =>
    have hcount : spec.toList.count ':' + 1 = 2 := Text.count_of_fields hf
    omega
  · rfl

/-- What makes an endpoint on a host. -/
theorem ofHost_eq_iff {p : ApiPort} : ofHost host p = e ↔
    e.host.toList = host ∧ e.port = p ∧ (IsDottedQuad host → e.hostIP = e.host) ∧
      (¬ IsDottedQuad host → e.hostIP = "") := by
  constructor
  · rintro rfl
    refine ⟨String.toList_ofList, rfl, fun hq => ?_, fun hq => ?_⟩
    · exact if_pos (isAddress_iff.2 hq)
    · exact if_neg (mt isAddress_iff.1 hq)
  · rintro ⟨rfl, rfl, hquad, hnone⟩
    obtain ⟨host, hostIP, port⟩ := e
    by_cases hq : IsDottedQuad host.toList
    · have hIP : hostIP = host := hquad hq
      simp [ofHost, isAddress_iff.2 hq, hIP]
    · have hIP : hostIP = "" := hnone hq
      have hno : ¬ isAddress host.toList := mt isAddress_iff.1 hq
      simp [ofHost, hno, hIP]

theorem Written.hostIP_eq_empty_iff (h : Written spec e) :
    e.hostIP = "" ↔ ¬ IsDottedQuad e.host.toList := by
  refine ⟨fun hIP hq => ?_, h.hostIP_of_not_quad⟩
  have hhost : e.host = "" := (h.hostIP_of_quad hq).symm.trans hIP
  have hnil : ¬ IsDottedQuad "".toList := mt isAddress_iff.2 (by decide)
  exact hnil (hhost ▸ hq)

theorem read_eq_ok_iff : read spec = .ok e ↔ Written spec e := by
  constructor
  · intro h
    have hcount : spec.toList.count ':' < 2 := by
      by_contra hle
      cases h.symm.trans (read_of_two_le_count (Nat.not_lt.1 hle))
    obtain ⟨host, port, hparts⟩ := exists_parts hcount
    rw [read_of_parts hparts] at h
    obtain ⟨p, hp, he⟩ := Outcome.map_eq_ok_iff.1 h
    obtain ⟨rfl, rfl, hquad, hnone⟩ := ofHost_eq_iff.1 he
    exact ⟨⟨port, hparts, ApiPort.read_eq_ok_iff.1 hp⟩, hquad, hnone⟩
  · intro ⟨⟨port, hparts, hp⟩, hquad, hnone⟩
    rw [read_of_parts hparts, ApiPort.read_eq_ok_iff.2 hp]
    exact congrArg Except.ok (ofHost_eq_iff.2 ⟨rfl, rfl, hquad, hnone⟩)

theorem read_eq_error_iff {fault : ApiPortError} : read spec = .error fault ↔ Fault spec fault := by
  constructor
  · intro h
    by_cases hcount : 2 ≤ spec.toList.count ':'
    · cases h.symm.trans (read_of_two_le_count hcount)
      exact .malformed hcount
    · obtain ⟨host, port, hparts⟩ := exists_parts (Nat.not_le.1 hcount)
      rw [read_of_parts hparts, Outcome.map_eq_error_iff] at h
      exact .port hparts (ApiPort.read_eq_error_iff.1 h)
  · intro h
    cases h with
    | malformed h => exact read_of_two_le_count h
    | port hparts h =>
      rw [read_of_parts hparts, Outcome.map_eq_error_iff]
      exact ApiPort.read_eq_error_iff.2 h

/-- The host and the port of an endpoint are read as the endpoint. -/
theorem Written.hosted (h : Written spec e) : Written (e.host ++ ":" ++ e.port.text) e where
  exists_parts := by
    obtain ⟨port, hparts, -⟩ := h.exists_parts
    refine ⟨e.port.text.toList, ?_, ApiPort.written_text e.port⟩
    have htext : (e.host ++ ":" ++ e.port.text).toList = e.host.toList ++ ':' :: e.port.text.toList := by
      simp
    rw [htext]
    exact .hosted hparts.not_mem_colon (ApiPort.colon_not_mem_text e.port)
  hostIP_of_quad := h.hostIP_of_quad
  hostIP_of_not_quad := h.hostIP_of_not_quad

/-- Whether `parse` accepts exactly the texts that are written as endpoints, each as the endpoint it means,
and tells the fault of any other. -/
structure AcceptsExactly (parse : String → Except ApiPortError ApiEndpoint) : Prop where
  exists_iff {spec : String} : (∃ e, parse spec = .ok e) ↔
    ∃ host port p, Parts spec.toList host port ∧ ApiPort.Written port p
  eq_ok_iff {spec : String} {e : ApiEndpoint} : parse spec = .ok e ↔ Written spec e
  eq_error_iff {spec : String} {fault : ApiPortError} : parse spec = .error fault ↔ Fault spec fault
  hostIP_eq {spec : String} {e : ApiEndpoint} (h : parse spec = .ok e) : e.hostIP = "" ∨ e.hostIP = e.host
  hostIP_eq_empty_iff {spec : String} {e : ApiEndpoint} (h : parse spec = .ok e) :
    e.hostIP = "" ↔ ¬ IsDottedQuad e.host.toList
  /-- The address of an empty host is empty too, and is not told apart from the host. -/
  hostIP_eq_host_iff {spec : String} {e : ApiEndpoint} (h : parse spec = .ok e) (hne : e.host ≠ "") :
    e.hostIP = e.host ↔ IsDottedQuad e.host.toList
  not_isIPv6 {spec : String} {e : ApiEndpoint} (h : parse spec = .ok e) : ¬ IsIPv6 e.host.toList
  of_isIPv6 {host : String} (h : IsIPv6 host.toList) (port : String) :
    parse (host ++ ":" ++ port) = .error (.malformed (host ++ ":" ++ port))
  /-- What is written of an endpoint is accepted as the same endpoint. -/
  hosted {spec : String} {e : ApiEndpoint} (h : parse spec = .ok e) :
    parse (e.host ++ ":" ++ e.port.text) = .ok e

theorem acceptsExactly_read : AcceptsExactly read where
  exists_iff {spec} := by
    constructor
    · intro ⟨e, h⟩
      obtain ⟨port, hparts, hp⟩ := (read_eq_ok_iff.1 h).exists_parts
      exact ⟨e.host.toList, port, e.port, hparts, hp⟩
    · intro ⟨host, port, p, hparts, hp⟩
      refine ⟨ofHost host p, ?_⟩
      rw [read_of_parts hparts, ApiPort.read_eq_ok_iff.2 hp]
      rfl
  eq_ok_iff := read_eq_ok_iff
  eq_error_iff := read_eq_error_iff
  hostIP_eq {spec e} h := by
    have hw := read_eq_ok_iff.1 h
    by_cases hq : IsDottedQuad e.host.toList
    · exact .inr (hw.hostIP_of_quad hq)
    · exact .inl (hw.hostIP_of_not_quad hq)
  hostIP_eq_empty_iff h := (read_eq_ok_iff.1 h).hostIP_eq_empty_iff
  hostIP_eq_host_iff {spec e} h hne := by
    have hw := read_eq_ok_iff.1 h
    refine ⟨fun heq => ?_, hw.hostIP_of_quad⟩
    by_contra hq
    exact hne (heq.symm.trans (hw.hostIP_of_not_quad hq))
  not_isIPv6 {spec e} h hv6 := by
    obtain ⟨port, hparts, -⟩ := (read_eq_ok_iff.1 h).exists_parts
    have hcount := hv6.two_le_count
    rw [List.count_eq_zero.2 hparts.not_mem_colon] at hcount
    omega
  of_isIPv6 {host} h port := by
    have hcount := h.two_le_count
    refine read_of_two_le_count ?_
    simp only [String.toList_append, List.count_append]
    omega
  hosted h := read_eq_ok_iff.2 (read_eq_ok_iff.1 h).hosted

/-- A sign and zeros are not kept, and a number with a zero in front makes no address. -/
example : (["10.0.0.7:+0443", "10.0.0.07:"].map fun spec => read spec) =
    [.ok { host := "10.0.0.7", hostIP := "10.0.0.7", port := .fixed 443 },
      .ok { host := "10.0.0.07", hostIP := "", port := .random }] := by
  decide +kernel

end ApiEndpoint
end ClusterPlan
