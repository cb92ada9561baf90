import ClusterPlan.Proofs.CommandLine.Argument

/-!
# Reading arguments

Options that parameters can express are read back from the arguments that they are written as, whatever
their values are (`Invocation.read_arguments`). One more parameter sets one more option
(`Given.take_ofArguments`), and the argument it is written as gives that parameter (`readCreateArg_text`).
-/

namespace ClusterPlan.CommandLine

/-! ## Reading parameters -/

/-- What is given together with a parameter. -/
def Given.take (g : Given) : Argument → Except Stop Given
  | .toggle t => g.turnOn t
  | .setting s value => usage (g.set s value)

/-- A value among those of what has one at most is the only one. -/
theorem of_append_cons_eq_toList {α : Type} {xs ys : List α} {x : α} {o : Option α}
    (h : xs ++ x :: ys = o.toList) : xs = [] ∧ o = some x := by
  cases o with
  | none => simp at h
  | some y =>
    cases xs with
    | nil => simp_all
    | cons => simp at h

/-- One more parameter is accepted, and sets its option besides those that were set before. -/
theorem Given.take_ofArguments {done rest : List Argument} {a : Argument} {o : Options}
    (h : Gives (done ++ a :: rest) o) :
    Given.take { options := .ofArguments done } a = .ok { options := .ofArguments (done ++ [a]) } := by
  cases a with
  | toggle t =>
    obtain ⟨hset, hnew⟩ := h.toggle_of_append
    have hnone : toggledBy t done = none := if_neg hnew
    cases t with
    | help | version | verbose => cases hset
    | noWait | updateKubeconfig | switchContext | noLoadBalancer | noImageVolume =>
      simp [Given.take, Given.turnOn, Given.withOptions, Options.ofArguments, hnone, Toggle.effect]
  | setting s value =>
    have hv : valuesOf s done ++ value :: valuesOf s rest = o.values s := by
      rw [← h.values s]
      simp [valuesOf, Argument.value?]
    cases s with
    | config | output => simp [Options.values] at hv
    -- What has one value at most has none before this one.
    | apiPort | image | network | token | timeout =>
      obtain ⟨hnone, -⟩ := of_append_cons_eq_toList hv
      simp only [Given.take, Given.set, Options.ofArguments, valuesOf_append_setting,
        toggledBy_append_setting, reduceCtorEq, reduceIte, hnone]
      rfl
    | masters | workers =>
      rw [Options.values, ← Option.toList_map] at hv
      obtain ⟨hnone, hsome⟩ := of_append_cons_eq_toList hv
      obtain ⟨n, -, rfl⟩ := Option.map_eq_some_iff.1 hsome
      simp only [Given.take, Given.set, Options.ofArguments, valuesOf_append_setting,
        toggledBy_append_setting, reduceCtorEq, reduceIte, hnone, List.nil_append, List.head?_cons,
        Option.bind_some, int64?_countText, count_countText]
      rfl
    | volume | port | serverArg | agentArg =>
      simp only [Given.take, Given.set, Options.ofArguments, valuesOf_append_setting,
        toggledBy_append_setting, reduceCtorEq, reduceIte]
      rfl

/-! ## Reading arguments -/

theorem Progress.readParameter?_of_equals {scope : Scope} {g : Given} {arg : String} {name value : List Char}
    (h : arg.toList = '-' :: '-' :: (name ++ '=' :: value)) (hname : '=' ∉ name) :
    Progress.readParameter? scope { given := g } arg = some
      (Progress.readNamed scope { given := g } (String.ofList name) (some (String.ofList value))) := by
  have hcut : Text.cut '=' (name ++ '=' :: value) = some (name, value) :=
    Text.cut_eq_some_iff.2 ⟨rfl, hname⟩
  cases name <;> simp_all [Progress.readParameter?, Progress.takesDashes, Progress.awaited?]

theorem Progress.readParameter?_of_name {scope : Scope} {g : Given} {arg : String} {name : List Char}
    (h : arg.toList = '-' :: '-' :: name) (hne : name ≠ []) (hname : '=' ∉ name) :
    Progress.readParameter? scope { given := g } arg = some
      (Progress.readNamed scope { given := g } (String.ofList name) none) := by
  have hcut : Text.cut '=' name = none := Text.cut_eq_none_iff.2 hname
  cases name <;> simp_all [Progress.readParameter?, Progress.takesDashes, Progress.awaited?]

theorem Progress.turnOn_eq (g : Given) (t : Toggle) :
    Progress.turnOn { given := g } t = (g.turnOn t).map fun given => { given } := by
  change (g.turnOn t >>= fun given => pure ({ given } : Progress)) = _
  cases g.turnOn t <;> rfl

theorem Progress.attach_eq (g : Given) (s : Setting) (value : String) :
    Progress.attach { given := g } s value = (g.set s value).map fun given => { given } := by
  change (g.set s value >>= fun given => pure ({ given } : Progress)) = _
  cases g.set s value <;> rfl

/-- A parameter in one argument is given, whatever its value is. -/
theorem readCreateArg_text (g : Given) {a : Argument} (h : a ≠ .toggle .version) :
    readCreateArg { given := g } a.text = (g.take a).map fun given => { given } := by
  cases a with
  | toggle t =>
    have hname : '=' ∉ t.name.toList := by cases t <;> decide
    have hne : t.name.toList ≠ [] := by cases t <;> decide
    have hnamed : Scope.create.named? t.name = some (.toggle t) := by
      cases t with
      | version => exact absurd rfl h
      | _ => decide
    have htext : (Argument.toggle t).text.toList = '-' :: '-' :: t.name.toList := by
      simp [Argument.text]
    simp only [readCreateArg, Progress.readParameter?_of_name htext hne hname, String.ofList_toList,
      Progress.readNamed, hnamed, Progress.turnOn_eq, Given.take]
  | setting s value =>
    have hname : '=' ∉ s.name.toList := by cases s <;> decide
    have hnamed : Scope.create.named? s.name = some (.setting s) := by cases s <;> decide
    have htext : (Argument.setting s value).text.toList =
        '-' :: '-' :: (s.name.toList ++ '=' :: value.toList) := by
      simp [Argument.text]
    simp only [readCreateArg, Progress.readParameter?_of_equals htext hname, String.ofList_toList,
      Progress.readNamed, hnamed, Progress.attach_eq, Given.take]
    cases g.set s value <;> rfl

/-- Parameters that give options are read one after the other, whatever their order. -/
theorem foldlM_readCreateArg {as : List Argument} {o : Options} (h : Gives as o) :
    (as.map Argument.text).foldlM readCreateArg {} = .ok { given := { options := .ofArguments as } } := by
  have hversion : .toggle .version ∉ as := fun hm => nomatch h.mem_iff.1 hm
  -- The parameters that were read so far are those that the options so far were set by.
  suffices hrun : ∀ done rest, done ++ rest = as →
      (rest.map Argument.text).foldlM readCreateArg { given := { options := .ofArguments done } } =
        .ok { given := { options := .ofArguments as } } from
    hrun [] as rfl
  intro done rest
  induction rest generalizing done with
  | nil =>
    rintro rfl
    rw [List.append_nil]
    rfl
  | cons a rest ih =>
    intro hall
    have ha : a ≠ .toggle .version := by
      rintro rfl
      exact hversion (hall ▸ List.mem_append_right done List.mem_cons_self)
    rw [List.map_cons, List.foldlM_cons, readCreateArg_text _ ha, Given.take_ofArguments (hall ▸ h)]
    exact ih (done ++ [a]) (by simpa using hall)

/-- The name of the cluster is read last. -/
theorem foldlM_nameArguments {o : Options} (h : o.name = none) (name : Option String) :
    ∃ wordsOnly, (nameArguments name).foldlM readCreateArg { given := { options := o } } =
      .ok { given := { options := { o with name } }, wordsOnly } := by
  cases name with
  | none =>
    refine ⟨false, ?_⟩
    cases o
    cases h
    rfl
  | some name =>
    refine ⟨true, ?_⟩
    have hdashes : readCreateArg { given := { options := o } } "--" =
        .ok { given := { options := o }, wordsOnly := true } := rfl
    have hword : readCreateArg { given := { options := o }, wordsOnly := true } name =
        .ok { given := { options := { o with name := some name } }, wordsOnly := true } := by
      simp only [readCreateArg, Progress.readParameter?, Progress.readValue?, h, true_or, if_true]
      rfl
    change (readCreateArg _ "--" >>= fun p => readCreateArg p name >>= pure) = _
    rw [hdashes]
    change (readCreateArg _ name >>= pure) = _
    rw [hword]
    rfl

theorem finish_of_none_pending {environment? : Option String} (henv : environment? ≠ some "")
    (g : Given) (wordsOnly : Bool) : finish environment? { given := g, wordsOnly } = .ok g := by
  have hcheck : g.checkEnvironment environment? = .ok () := by
    unfold Given.checkEnvironment
    split
    · next value _ =>
      have hne : value ≠ "" := fun he => henv (congrArg some he)
      rw [path, if_neg hne]
      rfl
    · rfl
  change (usage (g.checkEnvironment environment?) >>= fun _ => pure g) = _
  rw [hcheck]
  rfl

/-- Options that the command line can express are read from the parameters that give them and the name,
in any order of the parameters that keeps the order of each list. Values may be empty, begin with dashes and
hold equals signs. Where the environment names a file of options, its name must not be empty. -/
theorem Invocation.read_arguments {environment? : Option String} (henv : environment? ≠ some "")
    {o : Options} (ho : o.IsExpressible) : Gives o.arguments o ∧ ∀ as, Gives as o →
      Invocation.read environment? (createWord :: (as.map Argument.text ++ nameArguments o.name)) =
        .ok { verbosity := 0, config? := environment?, output := .yaml, options := o } := by
  refine ⟨.arguments o, fun as h => ?_⟩
  obtain ⟨wordsOnly, hname⟩ := foldlM_nameArguments (o := { o with name := none }) rfl o.name
  have hfold : (as.map Argument.text ++ nameArguments o.name).foldlM readCreateArg {} =
      .ok { given := { options := o }, wordsOnly } := by
    rw [List.foldlM_append, foldlM_readCreateArg h, h.ofArguments_eq ho]
    exact hname
  have hcommand : readCreate environment? (as.map Argument.text ++ nameArguments o.name) =
      .ok { options := o } := by
    rw [readCreate, hfold]
    exact finish_of_none_pending henv _ wordsOnly
  have hprogram : finish environment? {} = .ok {} := finish_of_none_pending henv {} false
  rw [Invocation.read, readProgram, if_pos ⟨nofun, rfl, rfl⟩, hcommand]
  change (finish environment? {} >>= fun program => pure _) = _
  rw [hprogram]
  rfl

/-- Options with values that look like parameters, given in an order that mixes two lists. -/
theorem Invocation.exists_read_arguments : ∃ o : Options,
    o.IsExpressible ∧ o.name = some "--no-wait" ∧ o.masters = some Int64.minValue ∧
    o.volumes = ["--", "a=b"] ∧ o.ports = ["", "-p=1"] ∧ o.wait = some false ∧
    Invocation.read none ["create", "--port=", "--volume=--", "--no-wait", "--port=-p=1",
        "--masters=-9223372036854775808", "--image=", "--volume=a=b", "--switch", "--", "--no-wait"] =
      .ok { verbosity := 0, config? := none, output := .yaml, options := o } := by
  let o : Options := {
    name := some "--no-wait", image := some "", masters := some Int64.minValue, volumes := ["--", "a=b"]
    ports := ["", "-p=1"], wait := some false, switchContext := some true }
  let as : List Argument := [
    .setting .port "", .setting .volume "--", .toggle .noWait, .setting .port "-p=1",
    .setting .masters "-9223372036854775808", .setting .image "", .setting .volume "a=b",
    .toggle .switchContext]
  have ho : o.IsExpressible := by
    intro t
    cases t <;> decide
  have has : Gives as o := ⟨fun s => by cases s <;> decide +kernel, fun t => by cases t <;> decide⟩
  have henv : (none : Option String) ≠ some "" := nofun
  exact ⟨o, ho, rfl, rfl, rfl, rfl, rfl, (read_arguments henv ho).2 as has⟩

end ClusterPlan.CommandLine
