import ClusterPlan.Cluster.Build
import ClusterPlan.Cluster.Descriptor
import ClusterPlan.CommandLine.Reader
import ClusterPlan.Files
import ClusterPlan.Json.Writer
import ClusterPlan.Notice.Filter
import ClusterPlan.Notice.Line
import ClusterPlan.Options.Reader
import ClusterPlan.Report.Summary
import ClusterPlan.Yaml.Writer

/-!
# The program

A run of the program reads options from a file and from the command line, of which those on the
command line win, builds the cluster they ask for, and writes it. `Program.run` gives all that a run
shows; it depends on the arguments and on the `Environment`.
-/

namespace ClusterPlan

open CommandLine

/-- What surrounds a run of the program. The files do not change while it runs. -/
structure Environment where
  /-- The name by which the program was called. -/
  program : String
  /-- The folder of the user. -/
  home : String
  /-- The file with options that the environment names. -/
  optionsFile? : Option String
  /-- The notices that the environment asks for. -/
  noticeFilter? : Option String
  /-- What reading a file gives. -/
  contentOf : String → Except FileError String
  /-- Whether looking up a path finds something, be it a file that cannot be read. Looking up may fail
  although there is something, such as in a folder that must not be searched. Where no files are
  hidden in this way, it shows in the attempt to read them. -/
  isPresent : String → Bool := fun path => leadsSomewhere (contentOf path)

/-- What a run of the program leaves behind. -/
structure RunResult where
  exitCode : Nat
  output : String
  errors : String
deriving Repr, DecidableEq

/-- Why a file gives no options. -/
inductive LoadError where
  | unreadable (e : FileError)
  | malformed
deriving Repr, DecidableEq

/-- The message that reports a failure, with its cause after it. Of a malformed document, two words
stand for what its parser finds wrong with it, and where. -/
def LoadError.message : LoadError → String
  | .unreadable e => s!"Failed to read file: {e.message}: {e.message}"
  | .malformed => "Failed to parse options: malformed document"

/-- Why the program gives no cluster. -/
inductive ProgramError where
  | load (path : String) (e : LoadError)
  | plan (e : PlanError)
  | assembly (e : TopologyError)
deriving Repr, DecidableEq

/-- The message that reports a failure, with its cause after it. -/
def TopologyError.fullMessage : TopologyError → String
  | .ambiguousPort spec => (TopologyError.ambiguousPort spec).message
  | .filter spec source => s!"{(TopologyError.filter spec source).message}: {source.message}"

/-- The message that reports a failure, with its cause after it. -/
def ProgramError.message : ProgramError → String
  | .load path e => s!"Failed to load options file {path}: {e.message}"
  | .plan e => s!"Invalid cluster options: {e.message}"
  | .assembly e => s!"Failed to assemble cluster: {e.fullMessage}"

namespace Program

/-- The file in the folder of the user that may hold options. -/
def defaultFile (home : String) : String :=
  if home.toList.getLast? = some '/' then s!"{home}.k3dforge/config.yaml"
  else s!"{home}/.k3dforge/config.yaml"

/-- The options in a file. -/
def loadFile (env : Environment) (path : String) : Except ProgramError Options :=
  match env.contentOf path with
  | .error e => .error (.load path (.unreadable e))
  | .ok text =>
    match Options.read? (DocumentFormat.ofPath path) text with
    | none => .error (.load path .malformed)
    | some options => .ok options

/-- The options in the file that was named, or in the file of the user if it is found. -/
def loadOptions (env : Environment) (named? : Option String) : Noted ProgramError Options :=
  match named? with
  | some path => Noted.ofExcept (loadFile env path)
  | none =>
    let path := defaultFile env.home
    if env.isPresent path then do
      Noted.tell .debug .program s!"Loading default options file {path}"
      Noted.ofExcept (loadFile env path)
    else pure {}

/-- A cluster, and what happens to the kubeconfig when it is up. -/
structure Work where
  cluster : Cluster
  kubeconfig : KubeconfigSettings
deriving Repr, DecidableEq

/-- The cluster that the program is asked for. -/
def work (env : Environment) (inv : Invocation) : Noted ProgramError Work := do
  let options ← loadOptions env inv.config?
  let ctx : BuildContext := {}
  let plan ← (Plan.ofOptions ctx.toSurroundings (options.override inv.options)).mapError .plan
  let cluster ← (Cluster.assemble ctx.resolver plan).mapError .assembly
  return { cluster, kubeconfig := plan.kubeconfig }

/-- A cluster in the format that is asked for. -/
def render (format : OutputFormat) (c : Cluster) : String :=
  match format with
  | .yaml => Yaml.write c.descriptor
  | .json => Json.write c.descriptor ++ "\n"
  | .table => c.summary

/-- The lines of the notices that are shown. -/
def showNotices (filter : NoticeFilter) (notices : List Notice) : String :=
  String.join ((notices.filter filter.shows).map Notice.line)

/-- The run that creates a cluster. -/
def create (env : Environment) (inv : Invocation) : RunResult :=
  let filter := NoticeFilter.choose env.noticeFilter? inv.verbosity
  let work := work env inv
  match work.result with
  | .ok w =>
    { exitCode := 0
      output := render inv.output w.cluster
      errors := showNotices filter work.notices ++
        w.cluster.usageHint w.kubeconfig env.program false }
  | .error e =>
    let failure : Notice := { severity := .error, origin := .program, text := e.message }
    { exitCode := 1
      output := ""
      errors := showNotices filter (work.notices ++ [failure]) }

/-- The version of the program. -/
def versionText : String := "k3dforge 0.1.0\n"

/-- How the program is used, in short. It stands for the text that also explains each command and each
parameter. -/
def helpText : String :=
  "Compile k3s-in-docker cluster options into a cluster descriptor\n\n" ++
    "Usage: k3dforge [OPTIONS] create [OPTIONS] [NAME]\n"

/-- The message that reports a command line that is refused. It stands for the text that also names the
argument, the values that are possible, and how the program is used. -/
def usageMessage : UsageError → String
  | .unknownArgument => "error: unexpected argument\n"
  | .unknownCommand => "error: unrecognized subcommand\n"
  | .invalidValue => "error: a value is missing or invalid\n"
  | .notAnInteger => "error: a value is not an integer\n"
  | .repeated => "error: an argument cannot be used multiple times\n"
  | .unexpectedValue => "error: an unexpected value is given\n"
  | .missingCommand => "error: a subcommand is required but was not provided\n"
  | .nothingGiven => helpText

/-- The run of the program with arguments. -/
def run (env : Environment) (args : List String) : RunResult :=
  match Invocation.read env.optionsFile? args with
  | .ok inv => create env inv
  | .error .help => { exitCode := 0, output := helpText, errors := "" }
  | .error .version => { exitCode := 0, output := versionText, errors := "" }
  | .error (.usage e) => { exitCode := 2, output := "", errors := usageMessage e }

/-- The files that a run may read. -/
def filesToRead (home : String) (optionsFile? : Option String) (args : List String) : List String :=
  match Invocation.read optionsFile? args with
  | .ok inv => [inv.config?.getD (defaultFile home)]
  | .error _ => []

end Program
end ClusterPlan
