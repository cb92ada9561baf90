/-!
# Splitting at a separator

`cut` splits a text at the first occurrence of a separator, and `fields` at every occurrence. The
parts hold no separator, and `join` puts them together again (`fields_eq_iff`, `cut_eq_some_iff`). A run of
characters of a class ends where another one follows (`span_append`).
-/

namespace ClusterPlan.Text

/-- The text before the first `sep` and the text after it, if `sep` occurs. -/
def cut (sep : Char) : List Char → Option (List Char × List Char)
  | [] => none
  | c :: cs => if c = sep then some ([], cs) else (cut sep cs).map fun (a, b) => (c :: a, b)

/-- The parts between the occurrences of `sep`; a text without it is one part. -/
def fields (sep : Char) : List Char → List (List Char)
  | [] => [[]]
  | c :: cs =>
    if c = sep then [] :: fields sep cs
    else match fields sep cs with
      | [] => [[c]]
      | part :: parts => (c :: part) :: parts

/-- The parts one after the other, with `sep` between them. -/
def join (sep : List Char) : List (List Char) → List Char
  | [] => []
  | [part] => part
  | part :: parts => part ++ sep ++ join sep parts

/-- `join` on strings. -/
def joinStrings (sep : String) (parts : List String) : String :=
  String.ofList (join sep.toList (parts.map String.toList))

theorem fields_ne_nil (sep : Char) (cs : List Char) : fields sep cs ≠ [] := by
  cases cs with
  | nil => simp [fields]
  | cons c cs =>
    rw [fields]
    split
    · simp
    · split <;> simp

/-- Joining the parts of a text gives the text. -/
theorem join_fields (sep : Char) (cs : List Char) : join [sep] (fields sep cs) = cs := by
  induction cs with
  | nil => rfl
  | cons c cs ih =>
    rw [fields]
    split
    · next h =>
      subst h
      cases hf : fields c cs with
      | nil => exact absurd hf (fields_ne_nil c cs)
      | cons part parts => rw [hf] at ih; simp [join, ih]
    · split
      · next h => exact absurd h (fields_ne_nil sep cs)
      · next part parts h =>
        rw [h] at ih
        cases parts with
        | nil => simp_all [join]
        | cons => simp_all [join]

/-- No part of a text holds the separator. -/
theorem not_mem_of_mem_fields {sep : Char} {cs part : List Char} (h : part ∈ fields sep cs) :
    sep ∉ part := by
  induction cs generalizing part with
  | nil => simp_all [fields]
  | cons c cs ih =>
    rw [fields] at h
    split at h
    · rcases List.mem_cons.1 h with rfl | h
      · simp
      · exact ih h
    · next hc =>
      split at h
      · next hf => exact absurd hf (fields_ne_nil sep cs)
      · next p ps hf =>
        rcases List.mem_cons.1 h with rfl | h
        · have : sep ∉ p := ih (by simp [hf])
          simp only [List.mem_cons, not_or]
          exact ⟨fun e => hc e.symm, this⟩
        · exact ih (by simp [hf, h])

/-- What stands in a part of a text stands in the text. -/
theorem mem_of_mem_fields {sep c : Char} {cs part : List Char} (h : part ∈ fields sep cs)
    (hc : c ∈ part) : c ∈ cs := by
  induction cs generalizing part with
  | nil => simp_all [fields]
  | cons d cs ih =>
    rw [fields] at h
    split at h
    · rcases List.mem_cons.1 h with rfl | h
      · cases hc
      · exact List.mem_cons_of_mem _ (ih h hc)
    · split at h
      · next hf => exact absurd hf (fields_ne_nil sep cs)
      · next p ps hf =>
        rcases List.mem_cons.1 h with rfl | h
        · rcases List.mem_cons.1 hc with rfl | hc
          · exact List.mem_cons_self
          · exact List.mem_cons_of_mem _ (ih (by simp [hf]) hc)
        · exact List.mem_cons_of_mem _ (ih (by simp [hf, h]) hc)

/-- A text without the separator is one part. -/
theorem fields_of_not_mem {sep : Char} {cs : List Char} (h : sep ∉ cs) : fields sep cs = [cs] := by
  induction cs with
  | nil => rfl
  | cons c cs ih =>
    simp only [List.mem_cons, not_or] at h
    rw [fields, if_neg (fun e => h.1 e.symm), ih h.2]

/-- The parts of `a`, the separator and `b` are `a` and the parts of `b`. -/
theorem fields_append_cons {sep : Char} {a : List Char} (h : sep ∉ a) (b : List Char) :
    fields sep (a ++ sep :: b) = a :: fields sep b := by
  induction a with
  | nil => simp [fields]
  | cons c cs ih =>
    simp only [List.mem_cons, not_or] at h
    rw [List.cons_append, fields, if_neg (fun e => h.1 e.symm), ih h.2]

/-- The parts of parts put together are these parts, if none of them holds the separator. -/
theorem fields_join {sep : Char} {parts : List (List Char)} (hne : parts ≠ [])
    (h : ∀ part ∈ parts, sep ∉ part) : fields sep (join [sep] parts) = parts := by
  induction parts with
  | nil => exact absurd rfl hne
  | cons part parts ih =>
    have hp : sep ∉ part := h part List.mem_cons_self
    cases parts with
    | nil => exact fields_of_not_mem hp
    | cons next rest =>
      rw [join, List.append_assoc, List.singleton_append, fields_append_cons hp,
        ih (List.cons_ne_nil _ _) fun p hm => h p (List.mem_cons_of_mem _ hm)]
      nofun

/-- The parts of a text are those that hold no separator and make up the text. -/
theorem fields_eq_iff {sep : Char} {cs : List Char} {parts : List (List Char)} :
    fields sep cs = parts ↔ parts ≠ [] ∧ (∀ part ∈ parts, sep ∉ part) ∧ cs = join [sep] parts := by
  constructor
  · rintro rfl
    exact ⟨fields_ne_nil sep cs, fun _ => not_mem_of_mem_fields, (join_fields sep cs).symm⟩
  · rintro ⟨hne, hparts, rfl⟩
    exact fields_join hne hparts

theorem fields_eq_one_iff {sep : Char} {cs a : List Char} :
    fields sep cs = [a] ↔ cs = a ∧ sep ∉ a := by
  simp [fields_eq_iff, join, and_comm]

theorem fields_eq_two_iff {sep : Char} {cs a b : List Char} :
    fields sep cs = [a, b] ↔ cs = a ++ sep :: b ∧ sep ∉ a ∧ sep ∉ b := by
  simp [fields_eq_iff, join, and_comm]

theorem fields_eq_three_iff {sep : Char} {cs a b c : List Char} :
    fields sep cs = [a, b, c] ↔ cs = a ++ sep :: (b ++ sep :: c) ∧ sep ∉ a ∧ sep ∉ b ∧ sep ∉ c := by
  simp [fields_eq_iff, join, and_comm]

/-- A text has one part more than it has separators. -/
theorem length_fields (sep : Char) (cs : List Char) : (fields sep cs).length = cs.count sep + 1 := by
  induction cs with
  | nil => rfl
  | cons c cs ih =>
    rw [fields]
    split
    · next h =>
      subst h
      rw [List.length_cons, ih, List.count_cons_self]
    · next h =>
      rw [List.count_cons_of_ne h, ← ih]
      split
      · next hf => exact absurd hf (fields_ne_nil sep cs)
      · next hf =>
        rw [hf]
        rfl

theorem count_of_fields {sep : Char} {cs : List Char} {parts : List (List Char)}
    (h : fields sep cs = parts) : cs.count sep + 1 = parts.length := by
  rw [← h, length_fields]

/-- What stands in joined parts stands in the separator or in a part. -/
theorem mem_of_mem_join {sep : List Char} {c : Char} {parts : List (List Char)}
    (h : c ∈ join sep parts) : c ∈ sep ∨ ∃ part ∈ parts, c ∈ part := by
  fun_induction join sep parts with
  | case1 => cases h
  | case2 part => exact .inr ⟨part, List.mem_cons_self, h⟩
  | case3 part parts hne ih =>
    rcases List.mem_append.1 h with h | h
    · rcases List.mem_append.1 h with h | h
      · exact .inr ⟨part, List.mem_cons_self, h⟩
      · exact .inl h
    · rcases ih h with h | ⟨p, hp, hc⟩
      · exact .inl h
      · exact .inr ⟨p, List.mem_cons_of_mem _ hp, hc⟩

theorem mem_join {sep c : Char} {parts : List (List Char)} (h : c ∈ join [sep] parts) :
    c = sep ∨ ∃ part ∈ parts, c ∈ part :=
  (mem_of_mem_join h).imp_left List.mem_singleton.1

theorem join_cons {sep part : List Char} {parts : List (List Char)} (h : parts ≠ []) :
    join sep (part :: parts) = part ++ sep ++ join sep parts := by
  cases parts with
  | nil => exact absurd rfl h
  | cons => rfl

theorem flatten_intersperse (sep : List Char) (parts : List (List Char)) :
    (parts.intersperse sep).flatten = join sep parts := by
  induction parts with
  | nil => rfl
  | cons part parts ih =>
    cases parts with
    | nil => exact List.append_nil part
    | cons next rest =>
      rw [join_cons (List.cons_ne_nil next rest), ← ih, List.append_assoc]
      rfl

/-- The parts of lines that all end with the separator are these lines and what stands after the last. -/
theorem fields_lines {sep : Char} {lines : List (List Char)} (h : ∀ line ∈ lines, sep ∉ line) :
    fields sep (lines.flatMap (· ++ [sep])) = lines ++ [[]] := by
  induction lines with
  | nil => rfl
  | cons line lines ih =>
    obtain ⟨hline, hlines⟩ := List.forall_mem_cons.1 h
    rw [List.flatMap_cons, List.append_assoc, List.singleton_append, fields_append_cons hline, ih hlines,
      List.cons_append]

/-- A cut gives the parts before and after the first separator. -/
theorem cut_eq_some_iff {sep : Char} {cs a b : List Char} :
    cut sep cs = some (a, b) ↔ cs = a ++ sep :: b ∧ sep ∉ a := by
  induction cs generalizing a b with
  | nil => simp [cut]
  | cons c cs ih =>
    rw [cut]
    split
    · next h =>
      subst h
      constructor
      · rintro ⟨⟩; simp
      · rintro ⟨h, hn⟩
        cases a with
        | nil => simp_all
        | cons x xs => simp_all
    · next h =>
      constructor
      · intro hm
        obtain ⟨⟨a', b'⟩, hc, he⟩ := Option.map_eq_some_iff.1 hm
        obtain ⟨hcs, hn⟩ := ih.1 hc
        cases he
        simp only [List.mem_cons, not_or]
        exact ⟨by simp [hcs], fun e => h e.symm, hn⟩
      · rintro ⟨he, hn⟩
        cases a with
        | nil => simp_all
        | cons x xs =>
          simp only [List.cons_append, List.cons.injEq] at he
          obtain ⟨rfl, hcs⟩ := he
          rw [ih.2 ⟨hcs, fun m => hn (List.mem_cons_of_mem _ m)⟩]
          rfl

/-- A text cannot be cut exactly if it lacks the separator. -/
theorem cut_eq_none_iff {sep : Char} {cs : List Char} : cut sep cs = none ↔ sep ∉ cs := by
  induction cs with
  | nil => simp [cut]
  | cons c cs ih =>
    rw [cut]
    split
    · next h => simp [h]
    · next h =>
      simp only [Option.map_eq_none_iff, ih, List.mem_cons, not_or]
      exact ⟨fun hn => ⟨fun e => h e.symm, hn⟩, fun hn => hn.2⟩

/-- A run of characters of a class is taken off a text that does not go on with another of them. -/
theorem span_append {p : Char → Bool} {run rest : List Char} (hrun : ∀ c ∈ run, p c)
    (hrest : ∀ c ∈ rest.head?, p c = false) :
    (run ++ rest).takeWhile p = run ∧ (run ++ rest).dropWhile p = rest := by
  rw [List.takeWhile_append_of_pos hrun, List.dropWhile_append_of_pos hrun]
  cases rest with
  | nil => exact ⟨List.append_nil run, rfl⟩
  | cons c cs =>
    have hc : ¬ p c := Bool.not_eq_true _ ▸ hrest c rfl
    rw [List.takeWhile_cons_of_neg hc, List.dropWhile_cons_of_neg hc]
    exact ⟨List.append_nil run, rfl⟩

end ClusterPlan.Text
