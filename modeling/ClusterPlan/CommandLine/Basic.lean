import ClusterPlan.Options.Basic
import ClusterPlan.Text.Decimal

/-!
# The command line

The program is called with a command, `create`, whose parameters begin with dashes. A `Toggle` is
given by its name alone and a `Setting` with a value. `Given` collects what was given.
-/

namespace ClusterPlan.CommandLine

/-- How the program writes the cluster. -/
inductive OutputFormat where
  | yaml
  | json
  | table
deriving Repr, DecidableEq

/-- What the program is asked to do: to create the cluster of some options. -/
structure Invocation where
  /-- How much the program tells besides warnings. -/
  verbosity : Nat
  /-- The file with further options. -/
  config? : Option String
  output : OutputFormat
  options : Options
deriving Repr, DecidableEq

/-- Why a command line is refused. -/
inductive UsageError where
  | unknownArgument
  | unknownCommand
  | invalidValue
  | notAnInteger
  /-- A parameter that is no list is given twice. -/
  | repeated
  /-- A toggle is given a value. -/
  | unexpectedValue
  | missingCommand
  | nothingGiven
deriving Repr, DecidableEq

/-- Why a command line asks for no work. -/
inductive Stop where
  | help
  | version
  | usage (e : UsageError)
deriving Repr, DecidableEq

/-- A parameter without a value. -/
inductive Toggle where
  | help
  | version
  | verbose
  | noWait
  | updateKubeconfig
  | switchContext
  | noLoadBalancer
  | noImageVolume
deriving Repr, DecidableEq

/-- A parameter with a value. -/
inductive Setting where
  | config
  | apiPort
  | masters
  | workers
  | image
  | network
  | token
  | volume
  | port
  | timeout
  | serverArg
  | agentArg
  | output
deriving Repr, DecidableEq

/-- Anything that begins with dashes. -/
inductive Parameter where
  | toggle (t : Toggle)
  | setting (s : Setting)
deriving Repr, DecidableEq

/-- Where a parameter stands: before the command, or after it. -/
inductive Scope where
  | program
  | create
deriving Repr, DecidableEq

/-! ### Names -/

/-- The name of a toggle, which follows two dashes. -/
def Toggle.name : Toggle → String
  | .help => "help"
  | .version => "version"
  | .verbose => "verbose"
  | .noWait => "no-wait"
  | .updateKubeconfig => "update-kubeconfig"
  | .switchContext => "switch"
  | .noLoadBalancer => "no-lb"
  | .noImageVolume => "no-image-volume"

/-- The name of a setting, which follows two dashes. -/
def Setting.name : Setting → String
  | .config => "config"
  | .apiPort => "api-port"
  | .masters => "masters"
  | .workers => "workers"
  | .image => "image"
  | .network => "network"
  | .token => "token"
  | .volume => "volume"
  | .port => "port"
  | .timeout => "timeout"
  | .serverArg => "k3s-server-arg"
  | .agentArg => "k3s-agent-arg"
  | .output => "output"

/-- The name of a parameter. -/
def Parameter.name : Parameter → String
  | .toggle t => t.name
  | .setting s => s.name

/-- The letter that a parameter may have instead of its name, after one dash. -/
def Parameter.letter? : Parameter → Option Char
  | .toggle .help => some 'h'
  | .toggle .version => some 'V'
  | .setting .apiPort => some 'a'
  | .setting .masters => some 'm'
  | .setting .workers => some 'w'
  | .setting .image => some 'i'
  | .setting .volume => some 'v'
  | .setting .port => some 'p'
  | .setting .output => some 'o'
  | _ => none

/-- The parameters that may stand in a scope. -/
def Scope.parameters : Scope → List Parameter
  | .program => [.toggle .help, .toggle .version, .toggle .verbose, .setting .config]
  | .create => [
      .toggle .help, .toggle .verbose, .setting .config, .setting .apiPort, .setting .masters,
      .setting .workers, .setting .image, .setting .network, .setting .token, .setting .volume,
      .setting .port, .toggle .noWait, .setting .timeout, .toggle .updateKubeconfig,
      .toggle .switchContext, .toggle .noLoadBalancer, .toggle .noImageVolume, .setting .serverArg,
      .setting .agentArg, .setting .output]

/-- The parameter with a name. -/
def Scope.named? (scope : Scope) (name : String) : Option Parameter :=
  scope.parameters.find? (·.name = name)

/-- The parameter with a letter. -/
def Scope.lettered? (scope : Scope) (letter : Char) : Option Parameter :=
  scope.parameters.find? (·.letter? = some letter)

/-- The values beginning with a dash that a setting takes from the argument after it. -/
inductive Dashes where
  | none
  | numbers
  | all
deriving Repr, DecidableEq

/-- The values beginning with a dash that a setting takes. -/
def Setting.dashes : Setting → Dashes
  | .masters | .workers => .numbers
  | .timeout | .serverArg | .agentArg => .all
  | _ => .none

/-! ### What was given -/

/-- What was given in a scope. -/
structure Given where
  /-- How often more telling was asked for; nobody counts beyond 255. -/
  verbosity : Nat := 0
  config? : Option String := none
  output? : Option OutputFormat := none
  options : Options := {}
deriving Repr, DecidableEq

/-- The format with a name. -/
def OutputFormat.ofName? (name : String) : Option OutputFormat :=
  if name = "yaml" then some .yaml
  else if name = "json" then some .json
  else if name = "table" then some .table
  else none

/-- A value for what has none so far. -/
def once {α : Type} (current : Option α) (value : Except UsageError α) :
    Except UsageError (Option α) :=
  if current.isSome then .error .repeated else value.map some

/-- A value that must be an integer. -/
def count (value : String) : Except UsageError Int64 :=
  match Decimal.int64? value.toList with
  | none => .error .notAnInteger
  | some n => .ok n

/-- A value that must name a file. -/
def path (value : String) : Except UsageError String :=
  if value = "" then .error .invalidValue else .ok value

/-- A value that must name a format. -/
def format (value : String) : Except UsageError OutputFormat :=
  match OutputFormat.ofName? value with
  | none => .error .invalidValue
  | some f => .ok f

namespace Given

/-- What is given together with other options. -/
def withOptions (g : Given) (options : Options) : Given :=
  { g with options }

/-- What is given together with the value of a setting. -/
def set (g : Given) (s : Setting) (value : String) : Except UsageError Given := do
  let o := g.options
  match s with
  | .config => return { g with config? := ← once g.config? (path value) }
  | .output => return { g with output? := ← once g.output? (format value) }
  | .apiPort => return g.withOptions { o with apiPort := ← once o.apiPort (.ok value) }
  | .masters => return g.withOptions { o with masters := ← once o.masters (count value) }
  | .workers => return g.withOptions { o with workers := ← once o.workers (count value) }
  | .image => return g.withOptions { o with image := ← once o.image (.ok value) }
  | .network => return g.withOptions { o with network := ← once o.network (.ok value) }
  | .token => return g.withOptions { o with token := ← once o.token (.ok value) }
  | .timeout => return g.withOptions { o with timeout := ← once o.timeout (.ok value) }
  | .volume => return g.withOptions { o with volumes := o.volumes ++ [value] }
  | .port => return g.withOptions { o with ports := o.ports ++ [value] }
  | .serverArg => return g.withOptions { o with serverArgs := o.serverArgs ++ [value] }
  | .agentArg => return g.withOptions { o with agentArgs := o.agentArgs ++ [value] }

/-- What is given together with a toggle. -/
def turnOn (g : Given) (t : Toggle) : Except Stop Given :=
  let o := g.options
  let once {α : Type} (current : Option α) (g : Given) : Except Stop Given :=
    if current.isSome then .error (.usage .repeated) else .ok g
  match t with
  | .help => .error .help
  | .version => .error .version
  | .verbose => .ok { g with verbosity := min (g.verbosity + 1) 255 }
  | .noWait => once o.wait (g.withOptions { o with wait := some false })
  | .updateKubeconfig =>
    once o.updateKubeconfig (g.withOptions { o with updateKubeconfig := some true })
  | .switchContext => once o.switchContext (g.withOptions { o with switchContext := some true })
  | .noLoadBalancer => once o.noLoadBalancer (g.withOptions { o with noLoadBalancer := some true })
  | .noImageVolume => once o.noImageVolume (g.withOptions { o with noImageVolume := some true })

end Given
end ClusterPlan.CommandLine
