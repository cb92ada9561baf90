import ClusterPlan.Mount
import ClusterPlan.Proofs.Outcome

/-!
# What is a mount and what is not

A text is written as a mount (`Mount.Written`) if it has the parts of the mount, with colons between them,
and the mount is valid. `Mount.Fault` says what is wrong with any other text, where of several faults only
the first counts. `Mount.read_eq_ok_iff` and `Mount.read_eq_error_iff` say that `Mount.read` tells the one
from the other. The text of a mount that is read is read as the same mount (`Mount.read_text`).
-/

namespace ClusterPlan

theorem Mount.modeOf?_eq_some_iff {word : List Char} {mode : MountMode} :
    Mount.modeOf? word = some mode ↔ word = mode.word.toList := by
  unfold Mount.modeOf?
  constructor
  · intro h
    split at h
    · next hw => cases h; exact hw
    split at h
    · next hw => cases h; exact hw
    · cases h
  · rintro rfl
    cases mode <;> decide

namespace Mount

/-- The source, the destination and the mode of a text, with colons between them. A source alone is its
own destination. -/
inductive Parts : List Char → List Char → List Char → Option (List Char) → Prop where
  | source {src : List Char} (hs : ':' ∉ src) : Parts src src src none
  | destination {src dest : List Char} (hs : ':' ∉ src) (hd : ':' ∉ dest) :
    Parts (src ++ ':' :: dest) src dest none
  | mode {src dest word : List Char} (hs : ':' ∉ src) (hd : ':' ∉ dest) (hw : ':' ∉ word) :
    Parts (src ++ ':' :: (dest ++ ':' :: word)) src dest (some word)

/-- What makes a mount of a source and a destination: an absolute path or an existing volume, and an
absolute path. -/
structure IsValid (isVolume : String → Bool) (m : Mount) : Prop where
  source_ne : m.source.toList ≠ []
  destination_ne : m.destination.toList ≠ []
  source : isAbsolute m.source.toList ∨ isVolume m.source
  destination : isAbsolute m.destination.toList

/-- A text with the parts of a mount that is valid. -/
structure Written (isVolume : String → Bool) (text : String) (m : Mount) : Prop extends
    IsValid isVolume m where
  parts : Parts text.toList m.source.toList m.destination.toList
    (m.mode?.map fun mode => mode.word.toList)

/-- What is wrong with a text: that it has too many parts, then that the source or the destination is
empty, then what is wrong with the source, with the destination and with the mode. -/
inductive Fault (isVolume : String → Bool) (text : String) : MountError → Prop where
  | tooManySeparators (h : 2 < text.toList.count ':') : Fault isVolume text (.tooManySeparators text)
  | emptyPart {src dest : List Char} {word? : Option (List Char)}
    (hp : Parts text.toList src dest word?) (h : src = [] ∨ dest = []) :
    Fault isVolume text (.emptyPart text)
  | invalidSource {src dest : List Char} {word? : Option (List Char)}
    (hp : Parts text.toList src dest word?) (hs : src ≠ []) (hd : dest ≠ [])
    (h : ¬ (isAbsolute src ∨ isVolume (String.ofList src))) :
    Fault isVolume text (.invalidSource text (String.ofList src))
  | relativeDestination {src dest : List Char} {word? : Option (List Char)}
    (hp : Parts text.toList src dest word?) (hs : src ≠ []) (hd : dest ≠ [])
    (hsrc : isAbsolute src ∨ isVolume (String.ofList src)) (h : ¬ isAbsolute dest) :
    Fault isVolume text (.relativeDestination text (String.ofList dest))
  | invalidMode {src dest word : List Char} (hp : Parts text.toList src dest (some word))
    (hs : src ≠ []) (hd : dest ≠ []) (hsrc : isAbsolute src ∨ isVolume (String.ofList src))
    (hdest : isAbsolute dest) (h : ∀ mode : MountMode, word ≠ mode.word.toList) :
    Fault isVolume text (.invalidMode text (String.ofList word))

variable {isVolume : String → Bool} {text : String} {m : Mount} {cs src dest : List Char}
  {word? : Option (List Char)}

/-! ## Parts -/

theorem parts?_eq_some_iff : parts? cs = some (src, dest, word?) ↔ Parts cs src dest word? := by
  constructor
  · intro h
    unfold parts? at h
    split at h
    · next hf =>
      obtain ⟨rfl, hs⟩ := Text.fields_eq_one_iff.1 hf
      cases h
      exact .source hs
    · next hf =>
      obtain ⟨rfl, hs, hd⟩ := Text.fields_eq_two_iff.1 hf
      cases h
      exact .destination hs hd
    · next hf =>
      obtain ⟨rfl, hs, hd, hw⟩ := Text.fields_eq_three_iff.1 hf
      cases h
      exact .mode hs hd hw
    · cases h
  · intro h
    unfold parts?
    cases h with
    | source hs => rw [Text.fields_eq_one_iff.2 ⟨rfl, hs⟩]
    | destination hs hd => rw [Text.fields_eq_two_iff.2 ⟨rfl, hs, hd⟩]
    | mode hs hd hw => rw [Text.fields_eq_three_iff.2 ⟨rfl, hs, hd, hw⟩]

/-- A text has no such parts if it has more than two colons. -/
theorem parts?_eq_none_iff : parts? cs = none ↔ 2 < cs.count ':' := by
  unfold parts?
  split
  · next hf =>
    have hcount : cs.count ':' + 1 = 1 := Text.count_of_fields hf
    exact ⟨nofun, fun h => by omega⟩
  · next hf =>
    have hcount : cs.count ':' + 1 = 2 := Text.count_of_fields hf
    exact ⟨nofun, fun h => by omega⟩
  · next hf =>
    have hcount : cs.count ':' + 1 = 3 := Text.count_of_fields hf
    exact ⟨nofun, fun h => by omega⟩
  · next hone htwo hthree =>
    refine ⟨fun _ => ?_, fun _ => rfl⟩
    match hf : Text.fields ':' cs with
    | [] => exact absurd hf (Text.fields_ne_nil ':' cs)
    | [a] => exact absurd hf (hone a)
    | [a, b] => exact absurd hf (htwo a b)
    | [a, b, c] => exact absurd hf (hthree a b c)
    | _ :: _ :: _ :: _ :: _ =>
      have hcount := Text.count_of_fields hf
      simp only [List.length_cons] at hcount
      omega

/-! ## Reading -/

/-- A text is written as the mount that is read, or has the fault that is told. -/
theorem read_cases (isVolume : String → Bool) (text : String) :
    (∃ m, Written isVolume text m ∧ read isVolume text = .ok m) ∨
      ∃ e, Fault isVolume text e ∧ read isVolume text = .error e := by
  unfold read
  split
  · next hparts => exact .inr ⟨_, .tooManySeparators (parts?_eq_none_iff.1 hparts), rfl⟩
  next src dest word? hparts =>
  replace hparts := parts?_eq_some_iff.1 hparts
  dsimp only
  split
  · next hempty => exact .inr ⟨_, .emptyPart hparts hempty, rfl⟩
  next hempty =>
  obtain ⟨hs, hd⟩ := not_or.1 hempty
  split
  · next hsrc => exact .inr ⟨_, .invalidSource hparts hs hd (not_or.2 hsrc), rfl⟩
  next hsrc =>
  replace hsrc := Decidable.or_iff_not_not_and_not.2 hsrc
  split
  · next hdest => exact .inr ⟨_, .relativeDestination hparts hs hd hsrc hdest, rfl⟩
  next hdest =>
  replace hdest := Decidable.not_not.1 hdest
  have hvalid (mode? : Option MountMode) : IsValid isVolume
      { source := String.ofList src, destination := String.ofList dest, mode? } := {
    source_ne := by simpa using hs
    destination_ne := by simpa using hd
    source := by simpa using hsrc
    destination := by simpa using hdest }
  split
  · exact .inl ⟨_, ⟨hvalid none, by simpa using hparts⟩, rfl⟩
  next word =>
  split
  · next hmode =>
    refine .inr ⟨_, .invalidMode hparts hs hd hsrc hdest fun mode hw => ?_, rfl⟩
    rw [modeOf?_eq_some_iff.2 hw] at hmode
    cases hmode
  · next mode hmode =>
    rw [modeOf?_eq_some_iff.1 hmode] at hparts
    exact .inl ⟨_, ⟨hvalid (some mode), by simpa using hparts⟩, rfl⟩

theorem read_eq_ok_iff : read isVolume text = .ok m ↔ Written isVolume text m := by
  refine ⟨(Outcome.of_cases (read_cases isVolume text)).1, ?_⟩
  intro ⟨hv, hparts⟩
  have hsrc : ¬ (¬ isAbsolute m.source.toList ∧ ¬ isVolume m.source) :=
    fun h => h.1 (hv.source.resolve_right h.2)
  simp only [read, parts?_eq_some_iff.2 hparts, String.ofList_toList, hv.source_ne,
    hv.destination_ne, false_or, if_false, hsrc, hv.destination, not_true_eq_false]
  obtain ⟨source, destination, mode?⟩ := m
  cases mode? with
  | none => rfl
  | some mode => simp only [Option.map_some, modeOf?_eq_some_iff.2 rfl]

theorem read_eq_error_iff {e : MountError} : read isVolume text = .error e ↔ Fault isVolume text e := by
  refine ⟨(Outcome.of_cases (read_cases isVolume text)).2, fun h => ?_⟩
  cases h with
  | tooManySeparators h => simp only [read, parts?_eq_none_iff.2 h]
  | emptyPart hp h => simp only [read, parts?_eq_some_iff.2 hp, if_pos h]
  | invalidSource hp hs hd h =>
    simp only [read, parts?_eq_some_iff.2 hp, if_neg (not_or.2 ⟨hs, hd⟩), if_pos (not_or.1 h)]
  | relativeDestination hp hs hd hsrc h =>
    simp only [read, parts?_eq_some_iff.2 hp, if_neg (not_or.2 ⟨hs, hd⟩),
      if_neg (Decidable.or_iff_not_not_and_not.1 hsrc), if_pos h]
  | @invalidMode _ _ word hp hs hd hsrc hdest h =>
    have hmode : modeOf? word = none :=
      Option.eq_none_iff_forall_ne_some.2 fun mode hm => h mode (modeOf?_eq_some_iff.1 hm)
    simp only [read, parts?_eq_some_iff.2 hp, if_neg (not_or.2 ⟨hs, hd⟩),
      if_neg (Decidable.or_iff_not_not_and_not.1 hsrc), if_neg (not_not_intro hdest), hmode]

/-! ## The text of a mount -/

theorem Parts.not_mem_colon (h : Parts cs src dest word?) : ':' ∉ src ∧ ':' ∉ dest := by
  cases h with
  | source hs => exact ⟨hs, hs⟩
  | destination hs hd => exact ⟨hs, hd⟩
  | mode hs hd _ => exact ⟨hs, hd⟩

/-- The text of a mount has the parts of the mount. -/
theorem parts_text (hs : ':' ∉ m.source.toList) (hd : ':' ∉ m.destination.toList) :
    Parts m.text.toList m.source.toList m.destination.toList
      (m.mode?.map fun mode => mode.word.toList) := by
  obtain ⟨source, destination, mode?⟩ := m
  cases mode? with
  | none =>
    have htext : (text ⟨source, destination, none⟩).toList =
        source.toList ++ ':' :: destination.toList := by
      simp [text, toString]
    rw [htext]
    exact .destination hs hd
  | some mode =>
    have htext : (text ⟨source, destination, some mode⟩).toList =
        source.toList ++ ':' :: (destination.toList ++ ':' :: mode.word.toList) := by
      simp [text, toString]
    have hmode : ':' ∉ mode.word.toList := by cases mode <;> decide
    rw [htext]
    exact .mode hs hd hmode

theorem Written.written_text (h : Written isVolume text m) : Written isVolume m.text m where
  toIsValid := h.toIsValid
  parts := parts_text h.parts.not_mem_colon.1 h.parts.not_mem_colon.2

/-- The text of a mount that is read is read as the same mount. -/
theorem read_text (h : read isVolume text = .ok m) : read isVolume m.text = .ok m :=
  read_eq_ok_iff.2 (read_eq_ok_iff.1 h).written_text

end Mount
end ClusterPlan
