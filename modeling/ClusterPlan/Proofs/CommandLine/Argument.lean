import ClusterPlan.CommandLine.Reader
import ClusterPlan.Proofs.Text.Numeral

/-!
# Options as arguments

Options are written on the command line with each parameter in one argument, a setting with an equals
sign before its value (`Argument.text`), and with the name of the cluster after two dashes
(`nameArguments`). `Gives` says that parameters give options: their order is free, but for the values of
a list. It is compared with the options that parameters set one after the other (`Gives.ofArguments_eq`).
-/

namespace ClusterPlan

namespace CommandLine

/-! ## Parameters and their values -/

/-- A parameter of the command that is written as one argument. -/
inductive Argument where
  | toggle (t : Toggle)
  | setting (s : Setting) (value : String)
deriving DecidableEq

namespace Argument

/-- The argument that a parameter is written as. -/
def text : Argument → String
  | .toggle t => "--" ++ t.name
  | .setting s value => "--" ++ s.name ++ "=" ++ value

/-- The value that a parameter gives a setting. -/
def value? (s : Setting) : Argument → Option String
  | .toggle _ => none
  | .setting s' value => if s' = s then some value else none

end Argument

/-- The values that parameters give a setting, in their order. -/
def valuesOf (s : Setting) (as : List Argument) : List String :=
  as.filterMap (Argument.value? s)

theorem valuesOf_append (s : Setting) (as bs : List Argument) :
    valuesOf s (as ++ bs) = valuesOf s as ++ valuesOf s bs :=
  List.filterMap_append

@[simp] theorem valuesOf_append_toggle (s : Setting) (as : List Argument) (t : Toggle) :
    valuesOf s (as ++ [.toggle t]) = valuesOf s as :=
  List.filterMap_append.trans (List.append_nil _)

@[simp] theorem valuesOf_append_setting (s : Setting) (as : List Argument) (s' : Setting)
    (value : String) : valuesOf s (as ++ [.setting s' value]) =
      if s' = s then valuesOf s as ++ [value] else valuesOf s as := by
  by_cases h : s' = s <;> simp [valuesOf, Argument.value?, h]

/-- What a toggle sets its option to. -/
def Toggle.effect : Toggle → Bool
  | .noWait => false
  | _ => true

/-- What parameters set the option of a toggle to. -/
def toggledBy (t : Toggle) (as : List Argument) : Option Bool :=
  if .toggle t ∈ as then some t.effect else none

@[simp] theorem toggledBy_append_toggle (t : Toggle) (as : List Argument) (t' : Toggle) :
    toggledBy t (as ++ [.toggle t']) = if t = t' then some t.effect else toggledBy t as := by
  by_cases h : t = t' <;> simp [toggledBy, h]

@[simp] theorem toggledBy_append_setting (t : Toggle) (as : List Argument) (s : Setting)
    (value : String) : toggledBy t (as ++ [.setting s value]) = toggledBy t as := by
  simp [toggledBy]

/-- A count as the value of a setting. -/
def countText (n : Int64) : String :=
  String.ofList (Decimal.integer n.toInt)

theorem int64?_countText (n : Int64) : Decimal.int64? (countText n).toList = some n := by
  rw [countText, String.toList_ofList, Decimal.int64?_integer]

theorem count_countText (n : Int64) : count (countText n) = .ok n := by
  rw [count, int64?_countText]

/-- The arguments that give the name of a cluster. -/
def nameArguments (name : Option String) : List String :=
  name.elim [] (["--", ·])

end CommandLine

namespace Options

open CommandLine

/-- The values that a setting has in options. -/
def values (o : Options) : Setting → List String
  | .config | .output => []
  | .apiPort => o.apiPort.toList
  | .masters => o.masters.toList.map countText
  | .workers => o.workers.toList.map countText
  | .image => o.image.toList
  | .network => o.network.toList
  | .token => o.token.toList
  | .timeout => o.timeout.toList
  | .volume => o.volumes
  | .port => o.ports
  | .serverArg => o.serverArgs
  | .agentArg => o.agentArgs

/-- The option that a toggle sets. -/
def toggled? (o : Options) : Toggle → Option Bool
  | .help | .version | .verbose => none
  | .noWait => o.wait
  | .updateKubeconfig => o.updateKubeconfig
  | .switchContext => o.switchContext
  | .noLoadBalancer => o.noLoadBalancer
  | .noImageVolume => o.noImageVolume

/-- Whether the command line can express options: none is set to what its toggle does not set it to. -/
def IsExpressible (o : Options) : Prop :=
  ∀ t, o.toggled? t ≠ some !t.effect

/-- Parameters for options, in the order in which the command lists them. -/
def arguments (o : Options) : List Argument :=
  Scope.create.parameters.flatMap fun
    | .toggle t => if o.toggled? t = some t.effect then [.toggle t] else []
    | .setting s => (o.values s).map (.setting s)

/-- The options that parameters set. -/
def ofArguments (as : List Argument) : Options where
  image := (valuesOf .image as).head?
  masters := (valuesOf .masters as).head?.bind (Decimal.int64? ·.toList)
  workers := (valuesOf .workers as).head?.bind (Decimal.int64? ·.toList)
  network := (valuesOf .network as).head?
  token := (valuesOf .token as).head?
  apiPort := (valuesOf .apiPort as).head?
  volumes := valuesOf .volume as
  ports := valuesOf .port as
  wait := toggledBy .noWait as
  timeout := (valuesOf .timeout as).head?
  updateKubeconfig := toggledBy .updateKubeconfig as
  switchContext := toggledBy .switchContext as
  noLoadBalancer := toggledBy .noLoadBalancer as
  noImageVolume := toggledBy .noImageVolume as
  serverArgs := valuesOf .serverArg as
  agentArgs := valuesOf .agentArg as

end Options

namespace CommandLine

/-- Parameters give options if each setting gets its values in their order, and each toggle stands among
the parameters once, or not at all if its option is not set. -/
structure Gives (as : List Argument) (o : Options) : Prop where
  values (s : Setting) : valuesOf s as = o.values s
  toggles (t : Toggle) : as.count (.toggle t) = if o.toggled? t = some t.effect then 1 else 0

namespace Gives

variable {as done rest : List Argument} {o : Options}

/-- Some parameters give the options that the command line can express. -/
theorem arguments (o : Options) : Gives o.arguments o where
  values s := by
    have hsetting (s' : Setting) (values : List String) :
        valuesOf s (values.map (.setting s')) = if s' = s then values else [] := by
      by_cases hs : s' = s <;> simp [valuesOf, List.filterMap_map, Argument.value?, Function.comp_def, hs]
    have htoggle (t : Toggle) (p : Prop) [Decidable p] :
        valuesOf s (if p then [.toggle t] else []) = [] := by
      split <;> rfl
    cases s <;> simp [Options.arguments, Scope.parameters, hsetting, htoggle, valuesOf_append]
  toggles t := by
    have hsetting (s : Setting) (values : List String) :
        (values.map (Argument.setting s)).count (.toggle t) = 0 := by
      simp [List.count_eq_zero]
    have htoggle (t' : Toggle) (p : Prop) [Decidable p] :
        (if p then [Argument.toggle t'] else []).count (.toggle t) = if t' = t ∧ p then 1 else 0 := by
      by_cases ht : t' = t <;> by_cases hp : p <;> simp [ht, hp]
    -- Of all toggles only the one for the version is not for the command.
    have hversion : o.toggled? .version ≠ some (Toggle.effect .version) := nofun
    cases t <;> simp [Options.arguments, Scope.parameters, hsetting, htoggle, hversion, List.count_append]

theorem mem_iff (h : Gives as o) {t : Toggle} : .toggle t ∈ as ↔ o.toggled? t = some t.effect := by
  rw [← List.count_pos_iff, h.toggles]
  split <;> simp_all

/-- A toggle stands among the parameters once, and its option is set. -/
theorem toggle_of_append {t : Toggle} (h : Gives (done ++ .toggle t :: rest) o) :
    o.toggled? t = some t.effect ∧ .toggle t ∉ done := by
  have hset := h.mem_iff.1 (List.mem_append_right done List.mem_cons_self)
  have hcount := h.toggles t
  rw [if_pos hset, List.count_append, List.count_cons_self] at hcount
  exact ⟨hset, List.count_eq_zero.1 (by omega)⟩

theorem toggledBy_eq (h : Gives as o) (he : o.IsExpressible) (t : Toggle) :
    toggledBy t as = o.toggled? t := by
  rw [toggledBy]
  split
  · next hm => exact (h.mem_iff.1 hm).symm
  · next hm =>
    rw [h.mem_iff] at hm
    have hne := he t
    cases ho : o.toggled? t with
    | none => rfl
    | some b => cases b <;> cases ht : t.effect <;> simp_all

/-- The options that parameters give are those they set, but for the name. -/
theorem ofArguments_eq (h : Gives as o) (he : o.IsExpressible) :
    Options.ofArguments as = { o with name := none } := by
  have hcount (n : Option Int64) :
      (n.toList.map countText).head?.bind (Decimal.int64? ·.toList) = n := by
    cases n with
    | none => rfl
    | some n => exact int64?_countText n
  simp only [Options.ofArguments, h.values, h.toggledBy_eq he, Options.values, Options.toggled?, hcount,
    Option.head?_toList]

end Gives

end CommandLine
end ClusterPlan
