import ClusterPlan.Json.Reader
import ClusterPlan.Proofs.Json.Token

/-!
# Reading written JSON

A tree without fractions and exponents is read back from what is written of it (`read?_write`), even if the
line ends after it (`read?_write_append`). The written text consists of the tokens of the tree
(`tokens?_writeTree`), and these make up the tree wherever a value may stand (`run?_tokensOf`).
-/

namespace ClusterPlan

/-- A tree whose numbers are all integers. -/
inductive Tree.IsExact : Tree → Prop where
  | null : IsExact .null
  | bool (b : Bool) : IsExact (.bool b)
  | int (n : Int) : IsExact (.int n)
  | text (s : String) : IsExact (.text s)
  | list {items : List Tree} (h : ∀ item ∈ items, IsExact item) : IsExact (.list items)
  | record {fields : List (String × Tree)} (h : ∀ field ∈ fields, IsExact field.2) :
    IsExact (.record fields)

theorem Tree.isExact_texts (items : List String) : (Tree.texts items).IsExact := by
  refine .list fun item hitem => ?_
  obtain ⟨s, -, rfl⟩ := List.mem_map.1 hitem
  exact .text s

namespace Json

/-! ## Tokens of a tree -/

mutual

/-- The tokens that a tree is written with. -/
def tokensOf : Tree → List Token
  | .text value => [.text value]
  | .list [] => [.openList, .closeList]
  | .list (item :: items) => .openList :: tokensOf item ++ tokensOfItems items ++ [.closeList]
  | .record [] => [.openRecord, .closeRecord]
  | .record ((name, value) :: fields) =>
    .openRecord :: .text name :: .colon :: tokensOf value ++ tokensOfFields fields ++ [.closeRecord]
  | tree => [.word tree]

/-- The tokens of the items of a list after the first one. -/
def tokensOfItems : List Tree → List Token
  | [] => []
  | item :: items => .comma :: tokensOf item ++ tokensOfItems items

/-- The tokens of the fields of a record after the first one. -/
def tokensOfFields : List (String × Tree) → List Token
  | [] => []
  | (name, value) :: fields =>
    .comma :: .text name :: .colon :: tokensOf value ++ tokensOfFields fields

end

theorem endsWord_cons {c : Char} (h : isWordChar c = false) (cs : List Char) : EndsWord (c :: cs) := by
  rintro _ ⟨⟩
  exact h

theorem endsWord_newLine (depth : Nat) (cs : List Char) : EndsWord (newLine depth ++ cs) :=
  endsWord_cons rfl _

theorem endsWord_writeItems (depth : Nat) (items : List Tree) {cs : List Char} (h : EndsWord cs) :
    EndsWord (writeItems depth items ++ cs) := by
  cases items with
  | nil => exact h
  | cons => exact endsWord_cons rfl _

theorem endsWord_writeFields (depth : Nat) (fields : List (String × Tree)) {cs : List Char}
    (h : EndsWord cs) : EndsWord (writeFields depth fields ++ cs) := by
  cases fields with
  | nil => exact h
  | cons => exact endsWord_cons rfl _

theorem tokens?_name (name : String) (cs : List Char) :
    tokens? (quote name ++ ':' :: ' ' :: cs) = (tokens? cs).map (.text name :: .colon :: ·) := by
  rw [tokens?_quote, tokens?_punctuation rfl, tokens?_space rfl, Option.map_map]
  rfl

theorem tokens?_brackets {c d : Char} {first last : Token} (hc : punctuation? c = some first)
    (hd : punctuation? d = some last) (cs : List Char) :
    tokens? (c :: d :: cs) = (tokens? cs).map ([first, last] ++ ·) := by
  rw [tokens?_punctuation hc, tokens?_punctuation hd, Option.map_map]
  rfl

mutual

/-- What is written of a tree is read as its tokens. -/
theorem tokens?_writeTree {t : Tree} (ht : t.IsExact) (depth : Nat) {cs : List Char} (hcs : EndsWord cs) :
    tokens? (writeTree depth t ++ cs) = (tokens? cs).map (tokensOf t ++ ·) := by
  match t with
  | .null | .bool true | .bool false => exact tokens?_word rfl rfl hcs
  | .int n => exact tokens?_integer n hcs
  | .real text => cases ht
  | .text value => exact tokens?_quote value cs
  | .list [] => exact tokens?_brackets rfl rfl cs
  | .list (item :: items) =>
    cases ht with
    | list h =>
      obtain ⟨hitem, hitems⟩ := List.forall_mem_cons.1 h
      have hend := endsWord_newLine depth (']' :: cs)
      simp only [writeTree, List.cons_append, List.append_assoc, List.nil_append]
      rw [tokens?_punctuation rfl, tokens?_newLine,
        tokens?_writeTree hitem _ (endsWord_writeItems _ items hend), tokens?_writeItems hitems _ hend,
        tokens?_newLine, tokens?_punctuation rfl]
      simp only [tokensOf, Option.map_map, Function.comp_def, List.cons_append, List.append_assoc,
        List.nil_append]
  | .record [] => exact tokens?_brackets rfl rfl cs
  | .record ((name, value) :: fields) =>
    cases ht with
    | record h =>
      obtain ⟨hvalue, hfields⟩ := List.forall_mem_cons.1 h
      have hend := endsWord_newLine depth ('\x7d' :: cs)
      simp only [writeTree, List.cons_append, List.append_assoc, List.nil_append]
      rw [tokens?_punctuation rfl, tokens?_newLine, tokens?_name,
        tokens?_writeTree hvalue _ (endsWord_writeFields _ fields hend),
        tokens?_writeFields hfields _ hend, tokens?_newLine, tokens?_punctuation rfl]
      simp only [tokensOf, Option.map_map, Function.comp_def, List.cons_append, List.append_assoc,
        List.nil_append]

theorem tokens?_writeItems {items : List Tree} (h : ∀ item ∈ items, item.IsExact) (depth : Nat)
    {cs : List Char} (hcs : EndsWord cs) :
    tokens? (writeItems depth items ++ cs) = (tokens? cs).map (tokensOfItems items ++ ·) := by
  match items with
  | [] => exact (congrFun Option.map_id_fun' _).symm
  | item :: items =>
    obtain ⟨hitem, hitems⟩ := List.forall_mem_cons.1 h
    simp only [writeItems, List.cons_append, List.append_assoc]
    rw [tokens?_punctuation rfl, tokens?_newLine,
      tokens?_writeTree hitem _ (endsWord_writeItems _ items hcs), tokens?_writeItems hitems _ hcs]
    simp only [tokensOfItems, Option.map_map, Function.comp_def, List.cons_append, List.append_assoc]

theorem tokens?_writeFields {fields : List (String × Tree)} (h : ∀ field ∈ fields, field.2.IsExact)
    (depth : Nat) {cs : List Char} (hcs : EndsWord cs) :
    tokens? (writeFields depth fields ++ cs) = (tokens? cs).map (tokensOfFields fields ++ ·) := by
  match fields with
  | [] => exact (congrFun Option.map_id_fun' _).symm
  | (name, value) :: fields =>
    obtain ⟨hvalue, hfields⟩ := List.forall_mem_cons.1 h
    simp only [writeFields, List.cons_append, List.append_assoc, List.nil_append]
    rw [tokens?_punctuation rfl, tokens?_newLine, tokens?_name,
      tokens?_writeTree hvalue _ (endsWord_writeFields _ fields hcs), tokens?_writeFields hfields _ hcs]
    simp only [tokensOfFields, Option.map_map, Function.comp_def, List.cons_append, List.append_assoc]

end

/-! ## The tree of tokens -/

/-- The tokens of a tree do not end a list, so the first item is read like any other. -/
theorem run?_firstItem (frames : List Frame) (t : Tree) (tokens : List Token) :
    run? .firstItem frames (tokensOf t ++ tokens) =
      run? .value (.list [] :: frames) (tokensOf t ++ tokens) := by
  match t with
  | .null | .bool _ | .int _ | .real _ | .text _ | .list [] | .list (_ :: _) | .record []
  | .record (_ :: _) => rfl

mutual

/-- Where a value may stand, the tokens of a tree make up this tree. -/
theorem run?_tokensOf (frames : List Frame) (t : Tree) (tokens : List Token) :
    run? .value frames (tokensOf t ++ tokens) = run? (.after t) frames tokens := by
  match t with
  | .null | .bool _ | .int _ | .real _ | .text _ | .list [] | .record [] => rfl
  | .list (item :: items) =>
    simp only [tokensOf, List.cons_append, List.append_assoc, List.nil_append]
    change run? .firstItem frames _ = _
    rw [run?_firstItem, run?_tokensOf, run?_tokensOfItems]
    rfl
  | .record ((name, value) :: fields) =>
    simp only [tokensOf, List.cons_append, List.append_assoc, List.nil_append]
    change run? .value (.record [] name :: frames) _ = _
    rw [run?_tokensOf, run?_tokensOfFields]
    rfl

/-- The items that follow end up behind the ones before. -/
theorem run?_tokensOfItems (before : List Tree) (frames : List Frame) (item : Tree) (items : List Tree)
    (tokens : List Token) :
    run? (.after item) (.list before :: frames) (tokensOfItems items ++ .closeList :: tokens) =
      run? (.after (.list (before.reverse ++ item :: items))) frames tokens := by
  match items with
  | [] =>
    change run? (.after (.list (item :: before).reverse)) frames tokens = _
    rw [List.reverse_cons]
  | next :: items =>
    simp only [tokensOfItems, List.cons_append, List.append_assoc]
    change run? .value (.list (item :: before) :: frames) _ = _
    rw [run?_tokensOf, run?_tokensOfItems, List.reverse_cons, List.append_assoc, List.singleton_append]

/-- The fields that follow end up behind the ones before. -/
theorem run?_tokensOfFields (before : List (String × Tree)) (frames : List Frame) (name : String)
    (value : Tree) (fields : List (String × Tree)) (tokens : List Token) :
    run? (.after value) (.record before name :: frames) (tokensOfFields fields ++ .closeRecord :: tokens) =
      run? (.after (.record (before.reverse ++ (name, value) :: fields))) frames tokens := by
  match fields with
  | [] =>
    change run? (.after (.record ((name, value) :: before).reverse)) frames tokens = _
    rw [List.reverse_cons]
  | (next, value') :: fields =>
    simp only [tokensOfFields, List.cons_append, List.append_assoc]
    change run? .value (.record ((name, value) :: before) next :: frames) _ = _
    rw [run?_tokensOf, run?_tokensOfFields, List.reverse_cons, List.append_assoc, List.singleton_append]

end

/-- A tree without fractions and exponents is read back from the text that writes it, whatever follows that
is no token. -/
theorem read?_write_append {t : Tree} (h : t.IsExact) {rest : String} (hends : EndsWord rest.toList)
    (hrest : tokens? rest.toList = some []) : read? (write t ++ rest) = some t := by
  rw [read?, write, String.toList_append, String.toList_ofList, tokens?_writeTree h 0 hends, hrest,
    Option.map_some, Option.bind_some, run?_tokensOf]
  rfl

/-- A tree without fractions and exponents is read back from the text that writes it. -/
theorem read?_write {t : Tree} (h : t.IsExact) : read? (write t) = some t := by
  have hends : EndsWord [] := by rintro _ ⟨⟩
  have hempty : tokens? [] = some [] := by rw [tokens?]
  have hread : read? (write t ++ "") = some t := read?_write_append h hends hempty
  rwa [String.append_empty] at hread

end Json
end ClusterPlan
