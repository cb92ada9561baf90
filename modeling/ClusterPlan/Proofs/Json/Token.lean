import ClusterPlan.Json.Token
import ClusterPlan.Json.Writer
import ClusterPlan.Proofs.Text.Numeral
import ClusterPlan.Text.Split
import Mathlib.Data.List.TakeWhile

/-!
# Tokens of written JSON

What is written of a text or of a number is read as one token (`tokens?_quote`, `tokens?_integer`), and what
stands between tokens is not read at all.
-/

namespace ClusterPlan.Json

open Decimal

/-! ## Numbers -/

theorem takeWhile_isDigit_digits (n : Nat) : (digits n).takeWhile Char.isDigit = digits n :=
  List.takeWhile_eq_self_iff.2 (isNumeral_digits n).isDigit

theorem dropWhile_isDigit_digits (n : Nat) : (digits n).dropWhile Char.isDigit = [] :=
  List.dropWhile_eq_nil_iff.2 (isNumeral_digits n).isDigit

theorem number?_digits (n : Nat) : number? (digits n) = some (.int n) := by
  unfold number?
  split
  next negative cs hsign =>
  split at hsign
  · next rest hdash =>
    exact absurd (hdash ▸ List.mem_cons_self) ((isNumeral_digits n).not_mem rfl)
  · cases hsign
    simp [takeWhile_isDigit_digits, dropWhile_isDigit_digits, digits?_digits, -not_and,
      digits_no_leading_zero]

theorem number?_neg_digits {n : Nat} (h : n ≠ 0) :
    number? ('-' :: digits n) = some (.int (-(n : Int))) := by
  simp [number?, takeWhile_isDigit_digits, dropWhile_isDigit_digits, digits?_digits, h, -not_and,
    digits_no_leading_zero]

theorem number?_integer (n : Int) : number? (integer n) = some (.int n) := by
  cases n with
  | ofNat m => rw [Int.ofNat_eq_natCast, integer_natCast, number?_digits]
  | negSucc m =>
    have hm : Int.negSucc m = -((m + 1 : Nat) : Int) := rfl
    rw [hm, integer_neg_natCast (Nat.succ_ne_zero m), number?_neg_digits (Nat.succ_ne_zero m)]

/-- Only the literal of an integer is read as one, neither a fraction nor an exponent nor `-0`. -/
theorem number?_eq_int_iff {word : List Char} {n : Int} :
    number? word = some (.int n) ↔ word = Decimal.integer n := by
  refine ⟨fun h => ?_, fun h => h ▸ number?_integer n⟩
  unfold number? at h
  split at h
  next negative cs hsign =>
  dsimp only at h
  by_cases hzero : (cs.takeWhile Char.isDigit).head? = some '0' ∧ 1 < (cs.takeWhile Char.isDigit).length
  · rw [if_pos hzero] at h
    cases h
  rw [if_neg hzero] at h
  cases hm : digits? (cs.takeWhile Char.isDigit) with
  | none =>
    rw [hm] at h
    cases h
  | some m =>
    rw [hm] at h
    dsimp only at h
    by_cases hint : cs.dropWhile Char.isDigit = [] ∧ ¬ (negative ∧ m = 0)
    · rw [if_pos hint] at h
      have hwhole : cs.takeWhile Char.isDigit = cs :=
        List.takeWhile_eq_self_iff.2 (List.dropWhile_eq_nil_iff.1 hint.1)
      rw [hwhole] at hm hzero
      have hcs := digits_of_digits? hm hzero
      split at hsign
      · cases hsign
        cases h
        rw [if_pos rfl, integer_neg_natCast fun hm => hint.2 ⟨rfl, hm⟩, hcs]
      · cases hsign
        cases h
        exact hcs.symm.trans (integer_natCast m).symm
    · rw [if_neg hint] at h
      split at h <;> cases h

theorem wordValue?_eq_int_iff {word : List Char} {n : Int} :
    wordValue? word = some (.int n) ↔ word = integer n := by
  have hname {name : List Char} (h : number? name = none) : name ≠ integer n := by
    rintro rfl
    cases h.symm.trans (number?_integer n)
  rw [wordValue?]
  split
  · next h => subst h; exact ⟨nofun, fun h => absurd h (hname rfl)⟩
  · split
    · next h => subst h; exact ⟨nofun, fun h => absurd h (hname rfl)⟩
    · split
      · next h => subst h; exact ⟨nofun, fun h => absurd h (hname rfl)⟩
      · exact number?_eq_int_iff

/-! ## Quoted texts -/

theorem quoted?_of_escape? {cs rest : List Char} {c : Char} (h : escape? cs = some (c, rest)) :
    quoted? ('\\' :: cs) = (quoted? rest).map fun (text, rest) => (c :: text, rest) := by
  rw [quoted?]
  split
  · next hnone => rw [h] at hnone; cases hnone
  · next heq => rw [h] at heq; cases heq; rfl

theorem quoted?_cons {c : Char} (hquote : c ≠ '"') (hslash : c ≠ '\\') (hc : ¬ c.toNat < 0x20)
    (cs : List Char) : quoted? (c :: cs) = (quoted? cs).map fun (text, rest) => (c :: text, rest) := by
  rw [quoted?.eq_def]
  split
  · next h => cases h
  · next h => cases h; exact absurd rfl hquote
  · next h => cases h; exact absurd rfl hslash
  · next h => cases h; rw [if_neg hc]

/-- A control is read back from its number. -/
theorem escape?_control {c : Char} (h : c.toNat < 0x20) (rest : List Char) :
    escape? ('u' :: '0' :: '0' :: Hexadecimal.lowerDigit (c.toNat / 16) ::
      Hexadecimal.lowerDigit (c.toNat % 16) :: rest) = some (c, rest) := by
  have hzero : Hexadecimal.value? '0' = some 0 := rfl
  have hhigh : Hexadecimal.value? (Hexadecimal.lowerDigit (c.toNat / 16)) = some (c.toNat / 16) :=
    Hexadecimal.value?_lowerDigit (by omega)
  have hlow : Hexadecimal.value? (Hexadecimal.lowerDigit (c.toNat % 16)) = some (c.toNat % 16) :=
    Hexadecimal.value?_lowerDigit (by omega)
  have hn : ((0 * 16 + 0) * 16 + c.toNat / 16) * 16 + c.toNat % 16 = c.toNat := by omega
  have hunit : unit? ('0' :: '0' :: Hexadecimal.lowerDigit (c.toNat / 16) ::
      Hexadecimal.lowerDigit (c.toNat % 16) :: rest) = some (c.toNat, rest) := by
    simp only [unit?, hzero, hhigh, hlow, bind, Option.bind_some, hn, pure]
  simp only [escape?, hunit]
  rw [if_neg (by omega), if_neg (by omega), Char.ofNat_toNat]

/-- Each character is read back from what it is written as. -/
theorem quoted?_escaped (c : Char) (cs : List Char) :
    quoted? (escaped c ++ cs) = (quoted? cs).map fun (text, rest) => (c :: text, rest) := by
  unfold escaped
  split
  case h_8 hquote hslash _ _ _ _ _ =>
    split
    · next hc => exact quoted?_of_escape? (escape?_control hc cs)
    · next hc => exact quoted?_cons hquote hslash hc cs
  all_goals exact quoted?_of_escape? rfl

theorem quoted?_flatMap (text rest : List Char) :
    quoted? (text.flatMap escaped ++ '"' :: rest) = some (text, rest) := by
  induction text with
  | nil => rw [List.flatMap_nil, List.nil_append, quoted?]
  | cons c text ih =>
    rw [List.flatMap_cons, List.append_assoc, quoted?_escaped, ih]
    rfl

/-! ## Tokens -/

theorem tokens?_space {c : Char} (h : isSpace c) (cs : List Char) : tokens? (c :: cs) = tokens? cs := by
  rw [tokens?, if_pos h]

theorem tokens?_newLine (depth : Nat) (cs : List Char) : tokens? (newLine depth ++ cs) = tokens? cs := by
  have hblanks (n : Nat) : tokens? (List.replicate n ' ' ++ cs) = tokens? cs := by
    induction n with
    | zero => rfl
    | succ n ih => rw [List.replicate_succ, List.cons_append, tokens?_space rfl, ih]
  rw [newLine, List.cons_append, tokens?_space rfl, hblanks]

theorem tokens?_punctuation {c : Char} {token : Token} (h : punctuation? c = some token)
    (cs : List Char) : tokens? (c :: cs) = (tokens? cs).map (token :: ·) := by
  have hplain : isSpace c = false ∧ c ≠ '"' ∧ isWordChar c = false := by
    unfold punctuation? at h
    split at h
    case h_7 => cases h
    all_goals decide
  rw [tokens?, if_neg (by simp [hplain]), if_neg hplain.2.1, if_neg (by simp [hplain])]
  simp only [h]

/-- What a text is written as between quotes is read as this text. -/
theorem tokens?_quote (text : String) (cs : List Char) :
    tokens? (quote text ++ cs) = (tokens? cs).map (.text text :: ·) := by
  have hquoted := quoted?_flatMap text.toList cs
  rw [quote, List.cons_append, List.cons_append, List.append_assoc, List.singleton_append, tokens?,
    if_neg (by decide), if_pos rfl]
  split
  · next hnone => rw [hquoted] at hnone; cases hnone
  · next heq =>
    rw [hquoted] at heq
    cases heq
    rw [String.ofList_toList]

/-- A text that does not go on with a word. -/
def EndsWord (cs : List Char) : Prop :=
  ∀ c ∈ cs.head?, isWordChar c = false

theorem isSpace_of_isWordChar {c : Char} (h : isWordChar c) : isSpace c = false := by
  by_contra hspace
  simp only [isSpace, Bool.not_eq_false, Bool.or_eq_true, decide_eq_true_eq] at hspace
  rcases hspace with ((rfl | rfl) | rfl) | rfl <;> revert h <;> decide

theorem tokens?_word {word : List Char} {value : Tree} (hvalue : wordValue? word = some value)
    (hword : word.all isWordChar) {cs : List Char} (hcs : EndsWord cs) :
    tokens? (word ++ cs) = (tokens? cs).map (.word value :: ·) := by
  cases word with
  | nil => cases (rfl : wordValue? [] = none).symm.trans hvalue
  | cons c word =>
    obtain ⟨hc, hword⟩ := List.forall_mem_cons.1 (List.all_eq_true.1 hword)
    have hquote : c ≠ '"' := by
      rintro rfl
      revert hc
      decide
    obtain ⟨htake, hdrop⟩ := Text.span_append hword hcs
    rw [List.cons_append, tokens?, if_neg (by simp [isSpace_of_isWordChar hc]), if_neg hquote, if_pos hc,
      htake, hdrop, hvalue]

theorem isWordChar_of_mem_integer {n : Int} {c : Char} (h : c ∈ integer n) : isWordChar c := by
  have hdigits (m : Nat) (hc : c ∈ digits m) : isWordChar c := by
    have hdigit := (isNumeral_digits m).isDigit c hc
    simp only [isWordChar, Char.isAlphanum, hdigit, Bool.or_true, Bool.true_or]
  rw [integer] at h
  split at h
  · rcases List.mem_cons.1 h with rfl | h
    · rfl
    · exact hdigits _ h
  · exact hdigits _ h

theorem tokens?_integer (n : Int) {cs : List Char} (hcs : EndsWord cs) :
    tokens? (integer n ++ cs) = (tokens? cs).map (.word (.int n) :: ·) :=
  have hword : (integer n).all isWordChar := List.all_eq_true.2 fun _ => isWordChar_of_mem_integer
  tokens?_word (wordValue?_eq_int_iff.2 rfl) hword hcs

end ClusterPlan.Json
