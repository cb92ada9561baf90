import ClusterPlan.Name

/-!
# Which names clusters may have

`IsClusterName` says what a cluster name is, and `NameFault` what is wrong with any other text, where of
several faults only the first counts. `checkName_eq_ok_iff` and `checkName_eq_error_iff` say that
`checkName` tells the one from the other.
-/

namespace ClusterPlan

/-- A name of 1 to 32 ASCII letters, digits and dashes, with no dash at either end. -/
structure IsClusterName (name : List Char) : Prop where
  length_pos : 0 < name.length
  length_le : name.length ≤ 32
  isNameChar {c : Char} (h : c ∈ name) : c.isAlphanum ∨ c = '-'
  head? : name.head? ≠ some '-'
  getLast? : name.getLast? ≠ some '-'

/-- What is wrong with a name: that there is none, then a dash at one of its ends, then a character that
names do not have, and then its length. -/
inductive NameFault (name : String) : NameError → Prop where
  | empty (h : name.toList = []) : NameFault name .empty
  | dashAtEdge (h : name.toList.head? = some '-' ∨ name.toList.getLast? = some '-') :
    NameFault name (.dashAtEdge name)
  | invalidCharacters (hh : name.toList.head? ≠ some '-') (hl : name.toList.getLast? ≠ some '-')
    (h : ∃ c ∈ name.toList, ¬ (c.isAlphanum ∨ c = '-')) : NameFault name (.invalidCharacters name)
  | tooLong (hh : name.toList.head? ≠ some '-') (hl : name.toList.getLast? ≠ some '-')
    (hc : ∀ c ∈ name.toList, c.isAlphanum ∨ c = '-') (h : 32 < name.toList.length) :
    NameFault name (.tooLong name.toList.length)

theorem all_isNameChar_iff {cs : List Char} :
    cs.all isNameChar ↔ ∀ c ∈ cs, c.isAlphanum ∨ c = '-' := by
  simp only [List.all_eq_true, isNameChar, Bool.or_eq_true, decide_eq_true_eq]

theorem checkName_eq_ok_iff {name : String} :
    checkName name = .ok () ↔ IsClusterName name.toList := by
  simp only [checkName, all_isNameChar_iff]
  split
  · next hnil => exact ⟨nofun, fun h => absurd hnil (List.length_pos_iff.1 h.length_pos)⟩
  split
  · next hdash => exact ⟨nofun, fun h => hdash.elim (absurd · h.head?) (absurd · h.getLast?)⟩
  split
  · next hchar => exact ⟨nofun, fun h => absurd (fun _ => h.isNameChar) hchar⟩
  split
  · next hlong => exact ⟨nofun, fun h => absurd h.length_le (Nat.not_le.2 hlong)⟩
  · next hnil hdash hchar hlong =>
    obtain ⟨hh, hl⟩ := not_or.1 hdash
    exact ⟨fun _ => {
      length_pos := List.length_pos_iff.2 hnil
      length_le := Nat.not_lt.1 hlong
      isNameChar := fun hc => Decidable.not_not.1 hchar _ hc
      head? := hh
      getLast? := hl }, fun _ => rfl⟩

theorem checkName_eq_error_iff {name : String} {e : NameError} :
    checkName name = .error e ↔ NameFault name e := by
  constructor
  · intro h
    simp only [checkName, all_isNameChar_iff] at h
    split at h
    · next hnil => cases h; exact .empty hnil
    split at h
    · next hdash => cases h; exact .dashAtEdge hdash
    next hdash =>
    obtain ⟨hh, hl⟩ := not_or.1 hdash
    split at h
    · next hchar => cases h; exact .invalidCharacters hh hl (by simpa using hchar)
    split at h
    · next hchar hlong => cases h; exact .tooLong hh hl (Decidable.not_not.1 hchar) hlong
    · cases h
  · intro h
    simp only [checkName, all_isNameChar_iff]
    cases h with
    | empty h => rw [if_pos h]
    | dashAtEdge h =>
      have hne : name.toList ≠ [] := fun hnil => by simp [hnil] at h
      rw [if_neg hne, if_pos h]
    | invalidCharacters hh hl h =>
      obtain ⟨c, hc, hbad⟩ := h
      rw [if_neg (List.ne_nil_of_mem hc), if_neg (not_or.2 ⟨hh, hl⟩),
        if_pos fun hall => hbad (hall c hc)]
    | tooLong hh hl hc h =>
      have hne : name.toList ≠ [] := List.length_pos_iff.1 (Nat.lt_trans (by decide) h)
      rw [if_neg hne, if_neg (not_or.2 ⟨hh, hl⟩), if_neg (not_not_intro hc)]
      exact if_pos h

end ClusterPlan
