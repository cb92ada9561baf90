import ClusterPlan.Yaml.Gap

/-!
# Plain scalars

A plain scalar is written without quotes. It ends at a colon with a gap after it, at a comment, at
the punctuation of a flow collection inside of one, at a document marker, and where the text is no
further in than the collection around it.
-/

namespace ClusterPlan.Yaml

/-- The punctuation of flow collections. -/
def isFlowMark (c : Char) : Bool :=
  c = ',' || c = '[' || c = ']' || c = '\x7b' || c = '\x7d'

namespace Plain

/-- Whether a colon is followed by what it may not be followed by in a flow collection. -/
def badColon (rest : List Cell) : Bool :=
  Cell.next (fun c => isFlowMark c || c = '?') rest

/-- The characters up to the next gap or the end of the scalar. -/
def word? (flow : Bool) : List Cell → Option (List Char × List Cell)
  | [] => some ([], [])
  | c :: rest =>
    if isGap c.char then some ([], c :: rest)
    else if flow && c.char = ':' && badColon rest then none
    else if c.char = ':' && Cell.endOr isGap rest || flow && isFlowMark c.char then
      some ([], c :: rest)
    else (word? flow rest).map fun (word, after) => (c.char :: word, after)

theorem length_of_word? {flow : Bool} {cells rest : List Cell} {word : List Char}
    (h : word? flow cells = some (word, rest)) : word.length + rest.length = cells.length := by
  induction cells generalizing word rest with
  | nil => cases h; rfl
  | cons c tail ih =>
    rw [word?] at h
    split at h
    · cases h; simp
    · split at h
      · cases h
      · split at h
        · cases h; simp
        · obtain ⟨⟨w, r⟩, hw, he⟩ := Option.map_eq_some_iff.1 h
          cases he
          have := ih hw
          simp only [List.length_cons]
          omega

/-- What follows a word in a scalar that is `indent` columns in: its characters, whether the scalar
is followed by a line break, and the text after it. -/
def more? (flow : Bool) (indent : Nat) (cells : List Cell) :
    Option (List Char × Bool × List Cell) :=
  match cells with
  | [] => some ([], false, [])
  | c :: tail =>
    if _hc : isGap c.char = true then
      match _hg : Gap.take (c :: tail) with
      | (gap, rest) =>
        let outdented := rest.head?.any (·.column < indent)
        if gap.tabBefore indent then none
        else if (!flow && outdented) || Cell.atMarker rest || Cell.next (· = '#') rest then
          some ([], gap.isFolded, rest)
        else match _hw : word? flow rest with
          | none => none
          | some ([], rest) => some ([], gap.isFolded, rest)
          | some (x :: xs, rest) =>
            (more? flow indent rest).map fun (text, folded, after) =>
              (gap.text ++ (x :: xs) ++ text, folded, after)
    else some ([], false, c :: tail)
termination_by cells.length
decreasing_by
  have hw := length_of_word? _hw
  have hg := @Gap.length_take_lt c tail _hc
  rw [_hg] at hg
  simp only [List.length_cons] at *
  omega

/-- The plain scalar that begins here, in a text that is `indent` columns in: its characters,
whether it is followed by a line break, and the text after it. -/
def read? (flow : Bool) (indent : Nat) (cells : List Cell) :
    Option (List Char × Bool × List Cell) := do
  let (word, rest) ← word? flow cells
  let (text, folded, after) ← more? flow indent rest
  return (word ++ text, folded, after)

end Plain
end ClusterPlan.Yaml
