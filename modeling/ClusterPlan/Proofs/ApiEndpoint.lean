import ClusterPlan.ApiEndpoint
import ClusterPlan.Proofs.Outcome
import ClusterPlan.Proofs.Text.Numeral

/-!
# Endpoints and their addresses

A host is an IPv4 address if it is a dotted quad (`ApiEndpoint.isAddress_iff`). An endpoint that is read
and filled in has a host without a colon and the address of that host, or any address
(`ApiEndpoint.isSound_filled_of_read`).
-/

namespace ClusterPlan

/-- Four numbers below 256 with dots between them, none of them with leading zeros. -/
def IsDottedQuad (host : List Char) : Prop :=
  ∃ ns : List Nat, ns.length = 4 ∧ (∀ n ∈ ns, n < 256) ∧
    host = Text.join ['.'] (ns.map Decimal.digits)

namespace ApiEndpoint

theorem isOctet_iff {cs : List Char} : isOctet cs ↔ ∃ n < 256, Decimal.digits n = cs := by
  unfold isOctet
  constructor
  · intro h
    split at h
    · cases h
    · next n _ =>
      rw [Bool.and_eq_true, decide_eq_true_eq, decide_eq_true_eq] at h
      exact ⟨n, h.1, h.2.symm⟩
  · rintro ⟨n, hn, rfl⟩
    simp [Decimal.digits?_digits, hn]

theorem isAddress_iff {host : List Char} : isAddress host ↔ IsDottedQuad host := by
  simp only [isAddress, Bool.and_eq_true, decide_eq_true_eq, List.all_eq_true, isOctet_iff]
  constructor
  · rintro ⟨hlen, hall⟩
    obtain ⟨ns, hns, hmap⟩ : ∃ ns : List Nat, (∀ n ∈ ns, n < 256) ∧
        ns.map Decimal.digits = Text.fields '.' host := by
      choose! octet hlt hdigits using hall
      refine ⟨(Text.fields '.' host).map octet, List.forall_mem_map.2 hlt, ?_⟩
      rw [List.map_map]
      exact (List.map_congr_left hdigits).trans (List.map_id _)
    refine ⟨ns, ?_, hns, ?_⟩
    · rw [← hlen, ← hmap, List.length_map]
    · rw [hmap, Text.join_fields]
  · rintro ⟨ns, hlen, hns, rfl⟩
    have hdot : ∀ part ∈ ns.map Decimal.digits, '.' ∉ part := by
      rintro _ hm
      obtain ⟨n, -, rfl⟩ := List.mem_map.1 hm
      exact (Decimal.isNumeral_digits n).not_mem rfl
    have hne : ns.map Decimal.digits ≠ [] := by
      rintro h
      rw [List.map_eq_nil_iff] at h
      rw [h] at hlen
      cases hlen
    rw [Text.fields_join hne hdot, List.length_map]
    exact ⟨hlen, fun part hm => (List.mem_map.1 hm).imp fun n hn => ⟨hns n hn.1, hn.2⟩⟩

/-- An endpoint with a host and an address: that of the host, or any. -/
structure IsSound (e : ApiEndpoint) : Prop where
  host_ne : e.host ≠ ""
  colon : ':' ∉ e.host.toList
  quad : IsDottedQuad e.hostIP.toList
  hostIP : e.hostIP = e.host ∨ e.hostIP = "0.0.0.0"

theorem IsSound.setPort {e : ApiEndpoint} (h : e.IsSound) (port : ApiPort) :
    IsSound { e with port } :=
  ⟨h.host_ne, h.colon, h.quad, h.hostIP⟩

theorem isDottedQuad_anyAddress : IsDottedQuad anyAddress.toList :=
  isAddress_iff.1 (by decide +kernel)

theorem isSound_filled_ofHost {host : List Char} (h : ':' ∉ host) (port : ApiPort) :
    (ofHost host port).filled.IsSound := by
  have hne : anyAddress ≠ "" := by decide
  have hcolon : ':' ∉ anyAddress.toList := by decide
  by_cases hnil : host = []
  · have hnone : isAddress [] = false := by decide +kernel
    have hany : (ofHost host port).filled = { host := anyAddress, hostIP := anyAddress, port } := by
      simp [hnil, ofHost, filled, hnone]
    rw [hany]
    exact ⟨hne, hcolon, isDottedQuad_anyAddress, .inl rfl⟩
  · have hne : String.ofList host ≠ "" := by simpa using hnil
    by_cases haddr : isAddress host
    · have hown : (ofHost host port).filled =
          { host := String.ofList host, hostIP := String.ofList host, port } := by
        simp [ofHost, filled, haddr, hnil]
      rw [hown]
      exact ⟨hne, by simpa using h, by simpa using isAddress_iff.1 haddr, .inl rfl⟩
    · have hother : (ofHost host port).filled =
          { host := String.ofList host, hostIP := anyAddress, port } := by
        simp [ofHost, filled, haddr, hnil]
      rw [hother]
      exact ⟨hne, by simpa using h, isDottedQuad_anyAddress, .inr rfl⟩

/-- An endpoint that is read is on a host without a colon. -/
theorem exists_ofHost_of_read {spec : String} {e : ApiEndpoint} (h : read spec = .ok e) :
    ∃ host port, ':' ∉ host ∧ e = ofHost host port := by
  unfold read at h
  split at h
  · obtain ⟨port, -, rfl⟩ := Outcome.map_eq_ok_iff.1 h
    exact ⟨[], port, List.not_mem_nil, rfl⟩
  · next host _ hfields =>
    have hmem : host ∈ Text.fields ':' spec.toList := hfields ▸ List.mem_cons_self
    obtain ⟨port, -, rfl⟩ := Outcome.map_eq_ok_iff.1 h
    exact ⟨host, port, Text.not_mem_of_mem_fields hmem, rfl⟩
  · cases h

/-- An endpoint that is read is sound once it is filled in. -/
theorem isSound_filled_of_read {spec : String} {e : ApiEndpoint} (h : read spec = .ok e) :
    e.filled.IsSound := by
  obtain ⟨host, port, hcolon, rfl⟩ := exists_ofHost_of_read h
  exact isSound_filled_ofHost hcolon port

end ApiEndpoint
end ClusterPlan
