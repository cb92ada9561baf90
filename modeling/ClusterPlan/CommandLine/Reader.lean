import ClusterPlan.CommandLine.Basic
import ClusterPlan.Text.Split

/-!
# Reading the command line

`Invocation.read` finds out what a command line asks for. Its arguments are read one after the
other. A setting takes its value from the same argument, after an equals sign, or from the next one;
the value is looked at only when the argument after it is accepted, so of two faults the later may
be the one that is reported. After two dashes nothing else begins with dashes.
-/

namespace ClusterPlan.CommandLine

/-- The setting whose value is being read. -/
inductive Pending where
  | none
  | awaiting (s : Setting)
  | holding (s : Setting) (value : String)
deriving Repr, DecidableEq

/-- What is known of a scope after some arguments. -/
structure Progress where
  given : Given := {}
  pending : Pending := .none
  /-- Whether two dashes have ended the parameters. -/
  wordsOnly : Bool := false
deriving Repr, DecidableEq

/-- A result, where a fault is one of usage. -/
def usage {α : Type} (x : Except UsageError α) : Except Stop α :=
  x.mapError .usage

namespace Progress

/-- The setting whose value is to be the next argument. -/
def awaited? (p : Progress) : Option Setting :=
  match p.pending with
  | .awaiting s => some s
  | _ => none

/-- Whether the next argument is a value even if it begins with dashes. -/
def takesDashes (p : Progress) : Bool :=
  p.awaited?.any (·.dashes = .all)

/-- Whether the next argument is a value if it is a negative number. -/
def takesNumbers (p : Progress) : Bool :=
  p.awaited?.any (·.dashes = .numbers)

/-- Accepts the value of the setting that was read last. -/
def settle (p : Progress) : Except UsageError Progress :=
  match p.pending with
  | .none => .ok p
  | .awaiting _ => .error .invalidValue
  | .holding s value => (p.given.set s value).map fun given => { p with given, pending := .none }

/-- The setting is next to be given its value. -/
def await (p : Progress) (s : Setting) : Except UsageError Progress :=
  p.settle.map fun p => { p with pending := .awaiting s }

/-- The setting has its value in the same argument. -/
def attach (p : Progress) (s : Setting) (value : String) : Except UsageError Progress := do
  let p ← p.settle
  return { p with given := ← p.given.set s value }

/-- A toggle is given. -/
def turnOn (p : Progress) (t : Toggle) : Except Stop Progress := do
  let p ← usage p.settle
  return { p with given := ← p.given.turnOn t }

/-- An argument that begins with a name after two dashes, and perhaps has a value after it. -/
def readNamed (scope : Scope) (p : Progress) (name : String) (value? : Option String) :
    Except Stop Progress :=
  match scope.named? name, value? with
  | none, _ => .error (.usage .unknownArgument)
  | some (.setting s), some value => usage (p.attach s value)
  | some (.setting s), none => usage (p.await s)
  | some (.toggle _), some _ => .error (.usage .unexpectedValue)
  | some (.toggle t), none => p.turnOn t

/-- An argument that begins with a letter after one dash, and perhaps has a value after it. -/
def readLettered (scope : Scope) (p : Progress) (letter : Char) (rest : List Char) :
    Except Stop Progress :=
  match scope.lettered? letter, rest with
  | none, _ => .error (.usage .unknownArgument)
  | some (.setting s), [] => usage (p.await s)
  | some (.setting s), '=' :: value => usage (p.attach s (String.ofList value))
  | some (.setting s), value => usage (p.attach s (String.ofList value))
  | some (.toggle t), _ => p.turnOn t

/-- Digits, among which one point may stand before one exponent; neither begins the number, and it
does not end with the sign of the exponent. -/
def isNumber (cs : List Char) : Bool :=
  let (mantissa, exponent) := match Text.cut 'e' cs with
    | some (mantissa, exponent) => (mantissa, exponent)
    | none => (cs, ['0'])
  let (whole, fraction) := (Text.cut '.' mantissa).getD (mantissa, [])
  whole ≠ [] && exponent ≠ [] && (whole ++ fraction ++ exponent).all Char.isDigit

/-- The progress after an argument that begins with dashes; none for any other argument, and for one
that is the value of the setting before it. -/
def readParameter? (scope : Scope) (p : Progress) (arg : String) :
    Option (Except Stop Progress) :=
  if p.wordsOnly ∨ p.takesDashes then none
  else match arg.toList with
    | ['-', '-'] => some (.ok { p with wordsOnly := true })
    | '-' :: '-' :: cs =>
      match Text.cut '=' cs with
      | some (name, value) =>
        some (p.readNamed scope (String.ofList name) (some (String.ofList value)))
      | none => some (p.readNamed scope (String.ofList cs) none)
    | '-' :: letter :: cs =>
      if p.takesNumbers && isNumber (letter :: cs) then none
      else some (p.readLettered scope letter cs)
    | _ => none

/-- The progress after an argument that is the value of the setting before it; none if that takes no
value. -/
def readValue? (p : Progress) (arg : String) : Option Progress :=
  if p.wordsOnly then none
  else p.awaited?.map fun s => { p with pending := .holding s arg }

end Progress

namespace Given

/-- What is given in a scope where the environment names a file of options, unless another one is
given. -/
def checkEnvironment (environment? : Option String) (g : Given) : Except UsageError Unit :=
  match g.config?, environment? with
  | none, some value => (path value).map fun _ => ()
  | _, _ => .ok ()

end Given

/-- The end of the arguments of a scope. -/
def finish (environment? : Option String) (p : Progress) : Except Stop Given := do
  let p ← usage p.settle
  usage (p.given.checkEnvironment environment?)
  return p.given

/-- The word for the command that creates a cluster. -/
def createWord : String := "create"

/-- The word for the command that asks for help. -/
def helpWord : String := "help"

/-! ### The scopes -/

/-- The progress after an argument of the command. Of the words that belong to no parameter, only
the first one has a meaning: it names the cluster. -/
def readCreateArg (p : Progress) (arg : String) : Except Stop Progress :=
  match p.readParameter? .create arg with
  | some outcome => outcome
  | none =>
    match p.readValue? arg with
    | some p => .ok p
    | none => do
      if p.given.options.name.isSome then throw (.usage .unknownArgument)
      let p ← usage p.settle
      return { p with given := p.given.withOptions { p.given.options with name := some arg } }

/-- What is given with the command. -/
def readCreate (environment? : Option String) (args : List String) : Except Stop Given := do
  finish environment? (← args.foldlM readCreateArg {})

/-- What the words after a request for help ask for. -/
def readHelp : List String → Stop
  | [] => .help
  | [word] => if word = createWord ∨ word = helpWord then .help else .usage .unknownCommand
  | _ => .usage .unknownCommand

/-- What the command and the program were given together. The command goes first, but for a file
that only the environment names. -/
def invocation (environment? : Option String) (program command : Given) : Invocation where
  verbosity := if command.verbosity = 0 then program.verbosity else command.verbosity
  config? := command.config? <|> program.config? <|> environment?
  output := command.output?.getD .yaml
  options := command.options

/-- Why there is no command. -/
def withoutCommand (environment? : Option String) (g : Given) : UsageError :=
  if g = {} ∧ environment? = none then .nothingGiven else .missingCommand

/-- The error for a word that should be a command. -/
def strayWord (p : Progress) (word : String) : UsageError :=
  if p.wordsOnly ∧ (word = createWord ∨ word = helpWord) then .unknownArgument else .unknownCommand

/-- What the arguments ask for, where the first ones are for the program. -/
def readProgram (environment? : Option String) (p : Progress) :
    List String → Except Stop Invocation
  | [] => do
    let given ← finish environment? p
    throw (.usage (withoutCommand environment? given))
  | arg :: args =>
    if ¬ p.wordsOnly ∧ p.awaited?.isNone ∧ arg = createWord then do
      let command ← readCreate environment? args
      let program ← finish environment? p
      return invocation environment? program command
    else if ¬ p.wordsOnly ∧ p.awaited?.isNone ∧ arg = helpWord then .error (readHelp args)
    else match p.readParameter? .program arg with
      | some outcome => do readProgram environment? (← outcome) args
      | none =>
        match p.readValue? arg with
        | some p => readProgram environment? p args
        | none => .error (.usage (strayWord p arg))

/-- What a command line, without the name of the program, asks for. The environment may name a file
of options. -/
def Invocation.read (environment? : Option String) (args : List String) :
    Except Stop Invocation :=
  readProgram environment? {} args

end ClusterPlan.CommandLine
