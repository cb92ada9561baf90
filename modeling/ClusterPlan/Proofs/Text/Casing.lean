import ClusterPlan.Text.Casing
import Mathlib.Data.List.Basic

/-!
# Words in lower case

Which texts are an ASCII word in lower case: those that are so by their ASCII letters alone
(`Text.toLower_eq_iff`), unless the word has a `k`, into which the sign of the kelvin turns as well. All other
characters beyond ASCII have a lower case beyond ASCII (`Text.exists_mem_lowerChar`).
-/

namespace ClusterPlan.Text

theorem toNat_toLower_lt_iff {c : Char} : c.toLower.toNat < 128 ↔ c.toNat < 128 := by
  unfold Char.toLower
  split
  · next h =>
    have hle : c.val.toNat ≤ 90 := UInt32.le_iff_toNat_le.1 h.2
    have hsum : (c.val + ('a'.val - 'A'.val)).toNat = c.val.toNat + 32 := by
      rw [UInt32.toNat_add, show ('a'.val - 'A'.val).toNat = 32 from rfl]
      omega
    show (c.val + ('a'.val - 'A'.val)).toNat < 128 ↔ c.val.toNat < 128
    omega
  · rfl

/-- A text in ASCII is put in lower case letter by letter. -/
theorem toLowerAfter_ascii {before cs : List Char} (h : ∀ c ∈ cs, c.toNat < 128) :
    toLowerAfter before cs = cs.map Char.toLower := by
  induction cs generalizing before with
  | nil => rfl
  | cons c cs ih =>
    obtain ⟨hc, hcs⟩ := List.forall_mem_cons.1 h
    have hsigma : c ≠ '\u03a3' := by
      rintro rfl
      exact absurd hc (by decide)
    simp [toLowerAfter, hsigma, lowerChar_ascii hc, ih hcs]

/-! ## Characters beyond ASCII -/

/-- A character of ASCII other than the letter that the sign of the kelvin turns into. -/
def IsPlain (c : Char) : Prop := c.toNat < 128 ∧ c ≠ 'k'

/-- What the spans map to is beyond ASCII and not among the surrogates, except the sign of the kelvin. -/
theorem bounds_of_mem_lowerSpans : ∀ s ∈ lowerSpans,
    128 ≤ s.first + s.shift ∧ s.last + s.shift < 0xD800 ∨
      0xE000 ≤ s.first + s.shift ∧ s.last + s.shift < 0x110000 ∨
      s.first = 0x212A ∧ s.last = 0x212A ∧ s.shift = -8383 := by
  decide +kernel

theorem not_isPlain_of_map? {s : CaseSpan} (hs : s ∈ lowerSpans) {n m : Nat} (h : s.map? n = some m) :
    ¬ IsPlain (Char.ofNat m) := by
  obtain ⟨⟨hfirst, hlast, -⟩, hm⟩ := Option.ite_none_right_eq_some.1 h
  replace hm : (n + s.shift).toNat = m := Option.some.inj hm
  have hvalid (hm : m.isValidChar) (hle : 128 ≤ m) : ¬ IsPlain (Char.ofNat m) := by
    have hnat : (Char.ofNat m).toNat = m := by
      rw [Char.ofNat, dif_pos hm]
      rfl
    rintro ⟨hlt, -⟩
    omega
  rcases bounds_of_mem_lowerSpans s hs with ⟨hlo, hhi⟩ | ⟨hlo, hhi⟩ | ⟨hf, hl, hshift⟩
  · exact hvalid (.inl (by omega)) (by omega)
  · exact hvalid (.inr (by omega)) (by omega)
  · have hk : m = 'k'.toNat := by
      rw [show 'k'.toNat = 107 from rfl]
      omega
    rintro ⟨-, hne⟩
    exact hne (by rw [hk, Char.ofNat_toNat])

theorem exists_mem_lowerChar {c : Char} (h : ¬ c.toNat < 128) : ∃ d ∈ lowerChar c, ¬ IsPlain d := by
  rw [lowerChar, if_neg h]
  split
  · exact ⟨'\u0307', by simp, fun hd => absurd hd.1 (by decide)⟩
  · refine ⟨_, List.mem_singleton_self _, ?_⟩
    cases hfind : lowerSpans.findSome? (·.map? c.toNat) with
    | none => exact fun hd => h hd.1
    | some m =>
      obtain ⟨s, hs, hm⟩ := List.exists_of_findSome?_eq_some hfind
      exact not_isPlain_of_map? hs hm

/-- A text that turns into plain characters alone is in ASCII. -/
theorem ascii_of_isPlain {before cs : List Char} (h : ∀ d ∈ toLowerAfter before cs, IsPlain d) :
    ∀ c ∈ cs, c.toNat < 128 := by
  induction cs generalizing before with
  | nil => simp
  | cons c cs ih =>
    rw [toLowerAfter] at h
    simp only [List.forall_mem_append] at h
    refine List.forall_mem_cons.2 ⟨?_, ih h.2⟩
    by_contra hc
    replace h := h.1
    split at h
    · split at h <;> exact absurd (h _ (List.mem_singleton_self _)).1 (by decide)
    · obtain ⟨d, hd, hplain⟩ := exists_mem_lowerChar hc
      exact hplain (h d hd)

/-- A text is a word in lower case if it is so by its ASCII letters. -/
theorem toLower_eq_iff {cs word : List Char} (hword : ∀ c ∈ word, IsPlain c) :
    toLower cs = word ↔ cs.map Char.toLower = word := by
  constructor
  · rintro rfl
    exact (toLowerAfter_ascii (ascii_of_isPlain hword)).symm
  · rintro rfl
    refine toLowerAfter_ascii fun c hc => toNat_toLower_lt_iff.1 ?_
    exact (hword _ (List.mem_map_of_mem hc)).1

end ClusterPlan.Text
