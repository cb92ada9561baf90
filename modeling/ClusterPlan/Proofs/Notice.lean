import ClusterPlan.Notice.Filter
import ClusterPlan.Notice.Line
import Mathlib.Data.List.Basic

/-!
# What is told and what is shown

A computation of several parts tells what its parts tell (`Noted.notices_bind_of_ok`), and a loop tells what
its steps tell, if a step tells the same whatever came before (`Noted.notices_foldlM`). `Noted.TellsOnly`
restricts what a computation may tell, even if it fails. Of all this, a program shows what its verbosity
allows (`NoticeFilter.shows_ofVerbosity`), and what can be printed as it is (`Notice.flatMap_shownChar`).
-/

namespace ClusterPlan

namespace Noted

variable {ε δ η α β γ : Type}

theorem notices_tellIf (b : Bool) (s : Severity) (o : Origin) (t : String) :
    (tellIf b s o t : Noted ε Unit).notices = if b then [⟨s, o, t⟩] else [] := by
  cases b <;> rfl

theorem notices_bind_of_ok {x : Noted ε α} {f : α → Noted ε β} {a : α} (h : x.result = .ok a) :
    (x >>= f).notices = x.notices ++ (f a).notices := by
  simp only [bind, andThen, h]

theorem notices_bind_pure (x : Noted ε α) (f : α → β) :
    (x >>= fun a => pure (f a)).notices = x.notices := by
  cases h : x.result with
  | error => simp only [bind, andThen, h]
  | ok => simp only [bind, andThen, h, pure, ofExcept, List.append_nil]

/-- Computations that go on telling the same tell the same, whatever their failures are seen as. -/
theorem notices_bind_congr (x : Noted η α) {p : η → ε} {q : η → δ} {f : α → Noted ε β}
    {g : α → Noted δ γ} (h : ∀ a, (f a).notices = (g a).notices) :
    (x.mapError p >>= f).notices = (x.mapError q >>= g).notices := by
  cases hx : x.result with
  | error => simp only [bind, andThen, mapError, hx, Except.mapError]
  | ok a => simp only [bind, andThen, mapError, hx, Except.mapError, h]

/-- A loop that succeeds tells what its steps tell, if something that each step keeps fixes what the next
one tells. -/
theorem notices_foldlM {f : β → γ → Noted ε β} {xs : List γ} {b b' : β}
    (h : (xs.foldlM f b).result = .ok b') {Kept : β → Prop} {told : γ → List Notice} (hb : Kept b)
    (hkept : ∀ {b x b'}, Kept b → (f b x).result = .ok b' → Kept b')
    (htold : ∀ {b x b'}, Kept b → (f b x).result = .ok b' → (f b x).notices = told x) :
    (xs.foldlM f b).notices = xs.flatMap told := by
  induction xs generalizing b with
  | nil => rfl
  | cons x xs ih =>
    rw [List.foldlM_cons] at h ⊢
    obtain ⟨b₁, h₁, hrest⟩ := bind_eq_ok_iff.1 h
    rw [notices_bind_of_ok h₁, htold hb h₁, ih hrest (hkept hb h₁), List.flatMap_cons]

/-! ## Restrictions on what is told -/

/-- All that a computation tells has the property `P`. -/
def TellsOnly (P : Notice → Prop) (x : Noted ε α) : Prop :=
  ∀ n ∈ x.notices, P n

namespace TellsOnly

variable {P : Notice → Prop} {x : Noted ε α}

theorem ofExcept (r : Except ε α) : TellsOnly P (Noted.ofExcept r) :=
  nofun

theorem tell {s : Severity} {o : Origin} {t : String} (h : P ⟨s, o, t⟩) :
    TellsOnly P (Noted.tell s o t : Noted ε Unit) :=
  List.forall_mem_singleton.2 h

theorem tellIf {b : Bool} {s : Severity} {o : Origin} {t : String} (h : P ⟨s, o, t⟩) :
    TellsOnly P (Noted.tellIf b s o t : Noted ε Unit) := by
  cases b with
  | false => exact ofExcept _
  | true => exact tell h

theorem bind {f : α → Noted ε β} (hx : TellsOnly P x) (hf : ∀ a, TellsOnly P (f a)) :
    TellsOnly P (x >>= f) := by
  cases h : x.result with
  | error => simpa only [TellsOnly, Bind.bind, andThen, h] using hx
  | ok a =>
    rw [TellsOnly, notices_bind_of_ok h]
    exact List.forall_mem_append.2 ⟨hx, hf a⟩

end TellsOnly

end Noted

namespace NoticeFilter

/-- The verbosity of a program says from which rank on it shows notices. -/
theorem shows_ofVerbosity (verbosity : Nat) (n : Notice) :
    (ofVerbosity verbosity).shows n = decide (n.severity.rank ≤ min (verbosity + 2) 5) := by
  simp [shows, rule?, ofVerbosity, NoticeRule.fits, NoticeRule.precision]

end NoticeFilter

namespace Notice

/-- Whether a character can be printed in ASCII. -/
def isPrintable (c : Char) : Bool :=
  0x20 ≤ c.toNat && c.toNat < 0x7F

theorem isPrintable_iff {c : Char} : isPrintable c ↔ 0x20 ≤ c.toNat ∧ c.toNat < 0x7F := by
  simp only [isPrintable, Bool.and_eq_true, decide_eq_true_eq]

theorem all_isPrintable_toString (n : Nat) : (toString n).toList.all isPrintable := by
  rw [Nat.toString_eq_repr, Nat.toList_repr]
  refine List.all_eq_true.2 fun c hc => ?_
  have hdigit := Nat.isDigit_of_mem_toDigits (by decide) (by decide) hc
  rw [Char.isDigit, Bool.and_eq_true, decide_eq_true_eq, decide_eq_true_eq] at hdigit
  have hge : 48 ≤ c.toNat := UInt32.le_iff_toNat_le.1 hdigit.1
  have hle : c.toNat ≤ 57 := UInt32.le_iff_toNat_le.1 hdigit.2
  exact isPrintable_iff.2 (by omega)

theorem shownChar_of_isPrintable {c : Char} (h : isPrintable c) : shownChar c = [c] := by
  have h := isPrintable_iff.1 h
  unfold shownChar
  dsimp only
  rw [if_neg (by omega), if_neg (by omega)]

/-- A text of printable characters is shown as it is. -/
theorem flatMap_shownChar {cs : List Char} (h : cs.all isPrintable) : cs.flatMap shownChar = cs := by
  rw [List.flatMap_congr fun c hc => shownChar_of_isPrintable (List.all_eq_true.1 h c hc),
    List.flatMap_singleton']

theorem line_ne_empty (n : Notice) : n.line ≠ "" := by
  rw [line, ne_eq, String.append_eq_empty_iff]
  exact fun h => absurd h.2 (by decide)

theorem join_lines_eq_empty_iff {ns : List Notice} : String.join (ns.map line) = "" ↔ ns = [] := by
  cases ns with
  | nil => exact iff_of_true rfl rfl
  | cons n ns =>
    rw [List.map_cons, String.join_cons, String.append_eq_empty_iff]
    exact iff_of_false (fun h => line_ne_empty n h.1) (List.cons_ne_nil n ns)

end Notice
end ClusterPlan
