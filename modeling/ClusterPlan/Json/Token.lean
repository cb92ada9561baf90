import ClusterPlan.Text.Decimal
import ClusterPlan.Text.Hexadecimal
import ClusterPlan.Tree.Basic

/-!
# JSON tokens

A JSON text is a row of tokens with blanks between them: punctuation, quoted texts and words, where
a word is a number or one of `true`, `false` and `null`. `tokens?` takes a text apart.
-/

namespace ClusterPlan.Json

/-- The smallest meaningful part of a JSON text. -/
inductive Token where
  | openList
  | closeList
  | openRecord
  | closeRecord
  | colon
  | comma
  | text (value : String)
  | word (value : Tree)
deriving Repr

/-- The blanks between tokens. -/
def isSpace (c : Char) : Bool :=
  c = ' ' || c = '\t' || c = '\n' || c = '\r'

/-! ### Quoted texts -/

/-- The number that four hexadecimal digits write, and what follows them. -/
def unit? : List Char → Option (Nat × List Char)
  | a :: b :: c :: d :: rest => do
    let a ← Hexadecimal.value? a
    let b ← Hexadecimal.value? b
    let c ← Hexadecimal.value? c
    let d ← Hexadecimal.value? d
    return (((a * 16 + b) * 16 + c) * 16 + d, rest)
  | _ => none

/-- The character that a letter after a backslash stands for. -/
def letterEscape? : Char → Option Char
  | '"' => some '"'
  | '\\' => some '\\'
  | '/' => some '/'
  | 'b' => some '\x08'
  | 'f' => some '\x0c'
  | 'n' => some '\n'
  | 'r' => some '\r'
  | 't' => some '\t'
  | _ => none

/-- The character that is written after a backslash, and what follows. A character beyond 16 bits is
written as the two halves of a pair, and neither half stands alone. -/
def escape? : List Char → Option (Char × List Char)
  | [] => none
  | 'u' :: cs =>
    match unit? cs with
    | none => none
    | some (n, rest) =>
      if 0xD800 ≤ n ∧ n < 0xDC00 then
        match rest with
        | '\\' :: 'u' :: more =>
          match unit? more with
          | none => none
          | some (m, rest) =>
            if 0xDC00 ≤ m ∧ m < 0xE000 then
              some (Char.ofNat (0x10000 + (n - 0xD800) * 0x400 + (m - 0xDC00)), rest)
            else none
        | _ => none
      else if 0xDC00 ≤ n ∧ n < 0xE000 then none
      else some (Char.ofNat n, rest)
  | c :: rest => (letterEscape? c).map fun e => (e, rest)

theorem length_of_unit? {cs rest : List Char} {n : Nat} (h : unit? cs = some (n, rest)) :
    rest.length < cs.length := by
  match cs, h with
  | a :: b :: c :: d :: tail, h =>
    simp only [unit?, bind, Option.bind_eq_some_iff] at h
    obtain ⟨_, _, _, _, _, _, _, _, h⟩ := h
    cases h
    simp only [List.length_cons]
    omega

theorem length_of_escape? {cs rest : List Char} {c : Char} (h : escape? cs = some (c, rest)) :
    rest.length < cs.length := by
  unfold escape? at h
  split at h
  · cases h
  · split at h
    · cases h
    · next hu =>
      have hn := length_of_unit? hu
      split at h
      · split at h
        · split at h
          · cases h
          · next hm =>
            have := length_of_unit? hm
            split at h
            · obtain ⟨-, rfl⟩ := Prod.mk.injEq .. ▸ Option.some.inj h
              simp only [List.length_cons] at *
              omega
            · cases h
        · cases h
      · split at h
        · cases h
        · obtain ⟨-, rfl⟩ := Prod.mk.injEq .. ▸ Option.some.inj h
          simp only [List.length_cons]
          omega
  · obtain ⟨_, _, he⟩ := Option.map_eq_some_iff.1 h
    cases he
    simp

/-- The text before the closing quote, and what follows the quote. Controls do not stand in it. -/
def quoted? (cs : List Char) : Option (List Char × List Char) :=
  match cs with
  | [] => none
  | '"' :: rest => some ([], rest)
  | '\\' :: rest =>
    match _h : escape? rest with
    | none => none
    | some (c, rest) => (quoted? rest).map fun (text, rest) => (c :: text, rest)
  | c :: rest =>
    if c.toNat < 0x20 then none
    else (quoted? rest).map fun (text, rest) => (c :: text, rest)
termination_by cs.length
decreasing_by
  · have := length_of_escape? _h
    simp only [List.length_cons]
    omega
  · simp

theorem length_of_quoted? {cs text rest : List Char} (h : quoted? cs = some (text, rest)) :
    rest.length < cs.length := by
  fun_induction quoted? cs generalizing text rest with
  | case1 => cases h
  | case2 => cases h; simp
  | case3 => cases h
  | case4 tail c rest' he ih =>
    obtain ⟨⟨t, r⟩, hq, heq⟩ := Option.map_eq_some_iff.1 h
    cases heq
    have := ih hq
    have := length_of_escape? he
    simp only [List.length_cons]
    omega
  | case5 => cases h
  | case6 c tail _ _ _ ih =>
    obtain ⟨⟨t, r⟩, hq, heq⟩ := Option.map_eq_some_iff.1 h
    cases heq
    have := ih hq
    simp only [List.length_cons]
    omega

/-! ### Words -/

/-- The characters of words. -/
def isWordChar (c : Char) : Bool :=
  c.isAlphanum || c = '-' || c = '+' || c = '.'

/-- Whether a text is empty or an exponent. -/
def isExponent : List Char → Bool
  | [] => true
  | e :: cs =>
    let digits := match cs with
      | '+' :: rest | '-' :: rest => rest
      | _ => cs
    (e = 'e' || e = 'E') && digits ≠ [] && digits.all Char.isDigit

/-- Whether a text is a fraction, an exponent, or a fraction with an exponent. -/
def isFraction : List Char → Bool
  | '.' :: cs => (cs.head?.any Char.isDigit) && isExponent (cs.dropWhile Char.isDigit)
  | cs => isExponent cs

/-- The number that a word writes. No zero stands in front of other digits, and only digits make an
integer. -/
def number? (word : List Char) : Option Tree :=
  let (negative, cs) := match word with
    | '-' :: rest => (true, rest)
    | _ => (false, word)
  let whole := cs.takeWhile Char.isDigit
  let rest := cs.dropWhile Char.isDigit
  if whole.head? = some '0' ∧ 1 < whole.length then none
  else match Decimal.digits? whole with
    | none => none
    | some n =>
      if rest = [] ∧ ¬ (negative ∧ n = 0) then some (.int (if negative then -(n : Int) else n))
      else if isFraction rest then some (.real (String.ofList word))
      else none

/-- What a word means. -/
def wordValue? (word : List Char) : Option Tree :=
  if word = "true".toList then some (.bool true)
  else if word = "false".toList then some (.bool false)
  else if word = "null".toList then some .null
  else number? word

/-- The token that a character is on its own. -/
def punctuation? : Char → Option Token
  | '[' => some .openList
  | ']' => some .closeList
  | '\x7b' => some .openRecord
  | '\x7d' => some .closeRecord
  | ':' => some .colon
  | ',' => some .comma
  | _ => none

/-- The tokens of a text. -/
def tokens? (cs : List Char) : Option (List Token) :=
  match cs with
  | [] => some []
  | c :: rest =>
    if isSpace c then tokens? rest
    else if c = '"' then
      match _h : quoted? rest with
      | none => none
      | some (text, rest) => (tokens? rest).map (.text (String.ofList text) :: ·)
    else if isWordChar c then
      match wordValue? (c :: rest.takeWhile isWordChar) with
      | none => none
      | some value => (tokens? (rest.dropWhile isWordChar)).map (.word value :: ·)
    else match punctuation? c with
      | none => none
      | some token => (tokens? rest).map (token :: ·)
termination_by cs.length
decreasing_by
  · simp
  · have := length_of_quoted? _h
    simp only [List.length_cons]
    omega
  · have := (List.dropWhile_sublist isWordChar (l := rest)).length_le
    simp only [List.length_cons]
    omega
  · simp

end ClusterPlan.Json
