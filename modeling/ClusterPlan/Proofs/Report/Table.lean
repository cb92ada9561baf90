import ClusterPlan.Report.Table
import ClusterPlan.Text.Split
import Mathlib.Data.List.Forall2

/-!
# The layout of tables

Every line of a table has its cells in the same columns (`Table.LaysOut`): a column begins after the columns
before it and a gap for each (`Table.start`), and holds its cell as a whole. Columns are as wide as the
longest header or cell in bytes (`Table.max?_column`), and no text has more characters than bytes
(`Table.length_toList_le`), so no cell runs into the next column. `Table.isTable_render` says so of
whole tables.
-/

namespace ClusterPlan.Table

variable {headers : List String} {rows : List (List String)} {widths : List Nat}
  {cells : List (List Char)} {line : List Char} {width j : Nat}

/-- The cells of a column from top to bottom, its header first; a row that is too short has none. -/
def column (headers : List String) (rows : List (List String)) (j : Nat) : List String :=
  (headers :: rows).filterMap (·[j]?)

/-- Where a column begins, counted in characters: after the columns before it, with three blanks after
each. -/
def start (widths : List Nat) (j : Nat) : Nat :=
  (widths.take j).foldr (fun width sum => width + 3 + sum) 0

/-- A line, without its end, that holds cells in columns of these widths. -/
structure LaysOut (widths : List Nat) (cells : List (List Char)) (line : List Char) : Prop where
  /-- A cell stands where its column begins, with blanks after it up to the width of the column. -/
  cell {j width : Nat} {cell : List Char} (hw : widths[j]? = some width) (hc : cells[j]? = some cell) :
    cell.length ≤ width ∧
      (line.drop (start widths j)).take width = cell ++ List.replicate (width - cell.length) ' '
  /-- Three blanks stand after a column that is not the last of the line. -/
  blanks {j width : Nat} (hw : widths[j]? = some width) (hc : j + 1 < cells.length) :
    (line.drop (start widths j + width)).take 3 = [' ', ' ', ' ']
  /-- The cells beyond the columns stand as they are, with three blanks between them. -/
  beyond (h : widths.length < cells.length) :
    line.drop (start widths widths.length) = Text.join [' ', ' ', ' '] (cells.drop widths.length)
  /-- A line without cells beyond the columns ends with the column of its last cell. -/
  length (hne : cells ≠ []) (h : cells.length ≤ widths.length) :
    line.length + 3 = start widths cells.length
  eq_nil (h : cells = []) : line = []

/-! ## Widths -/

theorem length_widen (widths : List Nat) (row : List String) :
    (widen widths row).length = widths.length := by
  induction widths generalizing row with
  | nil => rfl
  | cons width widths ih =>
    cases row with
    | nil => rfl
    | cons cell row => exact congrArg (· + 1) (ih row)

theorem length_widths (headers : List String) (rows : List (List String)) :
    (Table.widths headers rows).length = headers.length :=
  List.foldlRecOn (motive := fun ws => ws.length = headers.length) rows widen
    (List.length_map _) fun ws hws row _ => (length_widen ws row).trans hws

theorem getElem?_widen (widths : List Nat) (row : List String) (j : Nat) :
    (widen widths row)[j]? =
      widths[j]?.map fun width => row[j]?.elim width fun cell => max width cell.utf8ByteSize := by
  induction widths generalizing row j with
  | nil => rfl
  | cons width widths ih =>
    cases row with
    | nil => cases j <;> simp [widen]
    | cons cell row =>
      cases j with
      | zero => rfl
      | succ j => exact ih row j

/-- A column becomes as wide as the widest of its cells. -/
theorem getElem?_foldl_widen (rows : List (List String)) (widths : List Nat) (j : Nat) :
    (rows.foldl widen widths)[j]? = widths[j]?.map fun width =>
      ((rows.filterMap (·[j]?)).map String.utf8ByteSize).foldl max width := by
  induction rows generalizing widths with
  | nil => simp
  | cons row rows ih =>
    rw [List.foldl_cons, ih, getElem?_widen, Option.map_map]
    refine Option.map_congr fun width _ => ?_
    cases h : row[j]? <;> simp [h]

/-- A column is as wide as the most bytes of its header and cells. -/
theorem max?_column (h : (Table.widths headers rows)[j]? = some width) :
    ((column headers rows j).map String.utf8ByteSize).max? = some width := by
  rw [Table.widths, getElem?_foldl_widen, List.getElem?_map, Option.map_map] at h
  obtain ⟨header, hheader, hwidth⟩ := Option.map_eq_some_iff.1 h
  have hcolumn : column headers rows j = header :: rows.filterMap (·[j]?) :=
    List.filterMap_cons_some hheader
  rw [hcolumn, List.map_cons, List.max?_cons']
  exact congrArg some hwidth

/-- A text has no more characters than bytes. -/
theorem length_toList_le (s : String) : s.toList.length ≤ s.utf8ByteSize := by
  obtain ⟨cs, rfl⟩ : ∃ cs, s = String.ofList cs := ⟨s.toList, String.ofList_toList.symm⟩
  rw [String.toList_ofList]
  induction cs with
  | nil => exact Nat.zero_le _
  | cons c cs ih =>
    rw [String.ofList_cons, String.utf8ByteSize_append, String.utf8ByteSize_singleton, List.length_cons]
    have := c.utf8Size_pos
    omega

/-- A column has room for each of its cells. -/
theorem length_le_width (h : (Table.widths headers rows)[j]? = some width) {row : List String}
    (hrow : row ∈ headers :: rows) {cell : String} (hc : row[j]? = some cell) :
    cell.toList.length ≤ width := by
  have hmem : cell ∈ column headers rows j := List.mem_filterMap.2 ⟨row, hrow, hc⟩
  have hle := (List.max?_eq_some_iff.1 (max?_column h)).2 _ (List.mem_map_of_mem hmem)
  exact Nat.le_trans (length_toList_le cell) hle

/-! ## Lines -/

theorem length_pad {cell : List Char} (h : cell.length ≤ width) : (pad width cell).length = width := by
  rw [pad, List.length_append, List.length_replicate]
  omega

/-- What stands after a column and a gap. -/
theorem drop_pad {cell : List Char} (h : cell.length ≤ width) (n : Nat) :
    (pad width cell ++ gap ++ line).drop (width + 3 + n) = line.drop n := by
  have hlen : (pad width cell ++ gap).length = width + 3 := by
    rw [List.length_append, length_pad h]
    rfl
  rw [← hlen, List.drop_length_add_append]

/-- Without columns, all cells stand beyond them. -/
theorem LaysOut.nil (cells : List (List Char)) : LaysOut [] cells (Text.join gap cells) where
  cell hw := nomatch hw
  blanks hw := nomatch hw
  beyond _ := rfl
  length hne h := absurd (List.length_eq_zero_iff.1 (Nat.le_zero.1 h)) hne
  eq_nil h := h ▸ rfl

theorem LaysOut.of_nil (widths : List Nat) : LaysOut widths [] [] where
  cell _ hc := nomatch hc
  blanks _ hc := nomatch hc
  beyond h := absurd h (Nat.not_lt_zero _)
  length hne := absurd rfl hne
  eq_nil _ := rfl

/-- The last cell of a line is padded too, but no gap follows it. -/
theorem LaysOut.singleton {cell : List Char} (h : cell.length ≤ width) :
    LaysOut (width :: widths) [cell] (pad width cell) where
  cell {j} _ _ hw hc := by
    cases j with
    | zero =>
      cases hw
      cases hc
      exact ⟨h, List.take_of_length_le (Nat.le_of_eq (length_pad h))⟩
    | succ j => cases hc
  blanks hw hc := absurd hc (by simp)
  beyond h := absurd h (by simp)
  length _ _ := by
    rw [length_pad h]
    rfl
  eq_nil h := nomatch h

/-- A column before a line. -/
theorem LaysOut.cons {cell : List Char} (hle : cell.length ≤ width) (h : LaysOut widths cells line)
    (hne : cells ≠ []) : LaysOut (width :: widths) (cell :: cells) (pad width cell ++ gap ++ line) where
  cell {j} w c hw hc := by
    cases j with
    | zero =>
      cases hw
      cases hc
      refine ⟨hle, ?_⟩
      rw [start, List.take_zero, List.foldr_nil, List.drop_zero, List.append_assoc]
      exact List.take_left' (length_pad hle)
    | succ j =>
      have := h.cell hw hc
      rw [← drop_pad hle] at this
      exact this
  blanks {j} w hw hc := by
    cases j with
    | zero =>
      cases hw
      rw [start, List.take_zero, List.foldr_nil, Nat.zero_add, List.append_assoc,
        List.drop_left' (length_pad hle)]
      exact List.take_left' rfl
    | succ j =>
      have := h.blanks hw (Nat.lt_of_succ_lt_succ hc)
      rw [← drop_pad hle, ← Nat.add_assoc] at this
      exact this
  beyond hlt := (drop_pad hle _).trans (h.beyond (Nat.lt_of_succ_lt_succ hlt))
  length _ hlen := by
    have hline := h.length hne (Nat.le_of_succ_le_succ hlen)
    rw [List.length_append, List.length_append, length_pad hle, Nat.add_assoc, hline]
    rfl
  eq_nil h := nomatch h

theorem padded_ne_nil (h : cells ≠ []) : padded widths cells ≠ [] := by
  cases widths with
  | nil => cases cells <;> exact h
  | cons =>
    cases cells with
    | nil => exact h
    | cons => exact List.cons_ne_nil _ _

/-- A line without its end. -/
def content (widths : List Nat) (cells : List (List Char)) : List Char :=
  Text.join gap (padded widths cells)

theorem line_eq (widths : List Nat) (cells : List (List Char)) :
    Table.line widths cells = content widths cells ++ ['\n'] := by
  rw [Table.line, Text.flatten_intersperse, content]

/-- Cells stand in their columns, if these have room for them. -/
theorem laysOut_content
    (h : ∀ (j width : Nat) (cell : List Char), widths[j]? = some width → cells[j]? = some cell →
      cell.length ≤ width) :
    LaysOut widths cells (content widths cells) := by
  induction widths generalizing cells with
  | nil => cases cells <;> exact .nil _
  | cons width widths ih =>
    cases cells with
    | nil => exact .of_nil _
    | cons cell cells =>
      have hcell : cell.length ≤ width := h 0 width cell rfl rfl
      have hrest := ih fun j w c hw hc => h (j + 1) w c hw hc
      -- A gap stands before the next cell only, so the last cell is a case of its own.
      by_cases hne : cells = []
      · subst hne
        have hnil : padded widths [] = [] := by cases widths <;> rfl
        rw [content, padded, hnil]
        exact .singleton hcell
      · rw [content, padded, Text.join_cons (padded_ne_nil hne)]
        exact hrest.cons hcell hne

/-- Padding adds blanks only. -/
theorem mem_of_mem_padded {c : Char} {part : List Char} (hpart : part ∈ padded widths cells)
    (hc : c ∈ part) : c = ' ' ∨ ∃ cell ∈ cells, c ∈ cell := by
  fun_induction padded widths cells with
  | case1 width widths cell cells ih =>
    rcases List.mem_cons.1 hpart with rfl | hpart
    · rcases List.mem_append.1 hc with hc | hc
      · exact .inr ⟨cell, List.mem_cons_self, hc⟩
      · exact .inl (List.eq_of_mem_replicate hc)
    · exact (ih hpart).imp_right fun ⟨other, hother, hc⟩ => ⟨other, List.mem_cons_of_mem _ hother, hc⟩
  | case2 => exact .inr ⟨part, hpart, hc⟩

/-- A line ends only where its cells do. -/
theorem newline_not_mem_content (h : ∀ cell ∈ cells, '\n' ∉ cell) : '\n' ∉ content widths cells := by
  intro hn
  rcases Text.mem_of_mem_join hn with hgap | ⟨part, hpart, hn⟩
  · exact absurd hgap (by decide)
  · rcases mem_of_mem_padded hpart hn with heq | ⟨cell, hcell, hn⟩
    · exact absurd heq (by decide)
    · exact h cell hcell hn

/-- A letter in upper case is no line end. -/
theorem eq_newline_of_toUpper {c : Char} (h : c.toUpper = '\n') : c = '\n' := by
  unfold Char.toUpper at h
  split at h
  · next hlower =>
    have hge : 97 ≤ c.val.toNat := UInt32.le_iff_toNat_le.1 hlower.1
    have hle : c.val.toNat ≤ 122 := UInt32.le_iff_toNat_le.1 hlower.2
    replace h := congrArg Char.toNat h
    -- The difference of the cases is negative, and so taken modulo `2 ^ 32`.
    have hval : (c.val + ('A'.val - 'a'.val)).toNat = '\n'.toNat := h
    rw [UInt32.toNat_add, show ('A'.val - 'a'.val).toNat = 4294967264 by decide,
      show '\n'.toNat = 10 by decide] at hval
    omega
  · exact h

/-! ## Tables -/

/-- A header in capitals. -/
def capitals (header : String) : List Char :=
  header.toList.map Char.toUpper

/-- A text that is a table, with a line for the headers, in upper case, and a line for each row. -/
structure IsTable (headers : List String) (rows : List (List String)) (text : String)
    (widths : List Nat) (head : List Char) (body : List (List Char)) : Prop where
  length_widths : widths.length = headers.length
  /-- A column is as wide as the most bytes of its header and cells. -/
  width {j width : Nat} (h : widths[j]? = some width) :
    ((column headers rows j).map String.utf8ByteSize).max? = some width
  laysOut_head : LaysOut widths (headers.map capitals) head
  laysOut_body : List.Forall₂ (fun row line => LaysOut widths (row.map String.toList) line) rows body
  toList_text : text.toList = (head :: body).flatMap (· ++ ['\n'])
  /-- If no header or cell has a line end, the text has no other lines. -/
  fields_text (hheaders : ∀ header ∈ headers, '\n' ∉ header.toList)
    (hrows : ∀ row ∈ rows, ∀ cell ∈ row, '\n' ∉ cell.toList) :
    Text.fields '\n' text.toList = head :: body ++ [[]]

/-- The columns have room for the cells of each row, as long as these are shown in as many characters as
they have. -/
theorem laysOut_row {row : List String} (hrow : row ∈ headers :: rows) {shown : String → List Char}
    (hshown : ∀ cell, (shown cell).length = cell.toList.length) :
    LaysOut (Table.widths headers rows) (row.map shown)
      (content (Table.widths headers rows) (row.map shown)) := by
  refine laysOut_content fun j width chars hw hc => ?_
  rw [List.getElem?_map, Option.map_eq_some_iff] at hc
  obtain ⟨cell, hcell, rfl⟩ := hc
  rw [hshown cell]
  exact length_le_width hw hrow hcell

/-- The lines of a table without their ends. -/
def lines (headers : List String) (rows : List (List String)) : List (List Char) :=
  (headers.map capitals :: rows.map (List.map String.toList)).map (content (Table.widths headers rows))

theorem toList_render (hheaders : ∀ header ∈ headers, ∀ c ∈ header.toList, c.toNat < 128)
    (hrows : rows ≠ []) : (render headers rows).toList = (lines headers rows).flatMap (· ++ ['\n']) := by
  have hupper : (headers.map fun header => Text.toUpper header.toList) = headers.map capitals :=
    List.map_congr_left fun header hheader => Text.toUpper_ascii (hheaders header hheader)
  rw [render, if_neg hrows, String.toList_ofList, hupper]
  simp only [lines, line_eq, List.map_cons, List.map_map, List.flatMap_cons, List.flatMap_map,
    Function.comp_apply]

theorem newline_not_mem_of_mem_lines (hheaders : ∀ header ∈ headers, '\n' ∉ header.toList)
    (hrows : ∀ row ∈ rows, ∀ cell ∈ row, '\n' ∉ cell.toList) {line : List Char}
    (hline : line ∈ lines headers rows) : '\n' ∉ line := by
  obtain ⟨cells, hcells, rfl⟩ := List.mem_map.1 hline
  refine newline_not_mem_content fun chars hchars => ?_
  rcases List.mem_cons.1 hcells with rfl | hcells
  · obtain ⟨header, hheader, rfl⟩ := List.mem_map.1 hchars
    intro hn
    obtain ⟨c, hc, hn⟩ := List.mem_map.1 hn
    exact hheaders header hheader (eq_newline_of_toUpper hn ▸ hc)
  · obtain ⟨row, hrow, rfl⟩ := List.mem_map.1 hcells
    obtain ⟨cell, hcell, rfl⟩ := List.mem_map.1 hchars
    exact hrows row hrow cell hcell

/-- A table of rows under headers in ASCII has its cells in columns, and loses none of their text. -/
theorem isTable_render (hheaders : ∀ header ∈ headers, ∀ c ∈ header.toList, c.toNat < 128)
    (hrows : rows ≠ []) :
    ∃ widths head body, IsTable headers rows (render headers rows) widths head body := by
  refine ⟨Table.widths headers rows, content _ (headers.map capitals),
    (rows.map (List.map String.toList)).map (content _), {
      length_widths := length_widths headers rows
      width := max?_column
      laysOut_head := laysOut_row List.mem_cons_self fun _ => List.length_map _
      laysOut_body := ?_
      toList_text := toList_render hheaders hrows
      fields_text := fun hheadless hrowless => ?_ }⟩
  · rw [List.map_map, List.forall₂_map_right_iff, List.forall₂_same]
    exact fun row hrow => laysOut_row (List.mem_cons_of_mem _ hrow) fun _ => rfl
  · rw [toList_render hheaders hrows]
    exact Text.fields_lines fun _ hline => newline_not_mem_of_mem_lines hheadless hrowless hline

/-- A table whose rows are shorter and longer than its headers, with a cell that has more bytes than
characters. -/
theorem exists_isTable :
    render ["name", "role"] [["\u00e9t\u00e9", "m", "a  b", "c"], ["x"], []] =
      "NAME    ROLE\n\u00e9t\u00e9     m      a  b   c\nx    \n\n" ∧
    ∃ widths head body, IsTable ["name", "role"] [["\u00e9t\u00e9", "m", "a  b", "c"], ["x"], []]
      (render ["name", "role"] [["\u00e9t\u00e9", "m", "a  b", "c"], ["x"], []]) widths head body := by
  have hascii : ["name", "role"].all fun header => header.toList.all fun c => c.toNat < 128 := by
    decide +kernel
  simp only [List.all_eq_true, decide_eq_true_eq] at hascii
  exact ⟨by decide +kernel, isTable_render hascii (by decide)⟩

end ClusterPlan.Table
