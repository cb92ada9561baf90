import ClusterPlan.Program

/-!
# Running the program

Reads the environment and the files that a run needs, and shows what the run leaves behind.
-/

open ClusterPlan

/-- The number and the text by which the system reports a failure. -/
def systemReport? : IO.Error → Option (Nat × String)
  | .alreadyExists _ number text | .otherError number text | .resourceBusy number text
  | .resourceVanished number text | .unsupportedOperation number text | .hardwareFault number text
  | .unsatisfiedConstraints number text | .illegalOperation number text | .protocolError number text
  | .timeExpired number text | .interrupted _ number text | .noFileOrDirectory _ number text
  | .invalidArgument _ number text | .permissionDenied _ number text
  | .resourceExhausted _ number text | .inappropriateType _ number text
  | .noSuchThing _ number text => some (number.toNat, text)
  | .unexpectedEof | .userError _ => none

/-- What reading a file gives. -/
def contentOfFile (path : String) : IO (Except FileError String) := do
  try
    let file ← IO.FS.Handle.mk path .read
    let bytes ← file.readBinToEnd
    return (String.fromUTF8? bytes).elim (.error .notText) .ok
  catch e =>
    return .error <| (systemReport? e).elim (.other (toString e)) fun (number, text) =>
      .ofSystem number text

/-- Whether looking up a path finds something. -/
def isFound (path : String) : IO Bool := do
  try
    discard (IO.FS.realPath path)
    return true
  catch _ => return false

/-- The folder of the user of this process in the system's list of users. -/
def listedFolder? : IO (Option String) := do
  let status ← contentOfFile "/proc/self/status"
  let users ← contentOfFile "/etc/passwd"
  return do
    let number ← userNumber? (← status.toOption)
    folderOfUser? (← users.toOption) number

/-- The name by which the program was called: the first of the arguments of this process. -/
def calledName : IO String := do
  let arguments ← contentOfFile "/proc/self/cmdline"
  let first? := arguments.toOption.bind fun text => (Text.fields '\x00' text.toList).head?
  return first?.elim "k3dforge" String.ofList

def main (args : List String) : IO UInt32 := do
  let home := homeFolder (← IO.getEnv "HOME") (← listedFolder?)
  let optionsFile? ← IO.getEnv "K3DFORGE_CONFIG"
  let noticeFilter? ← IO.getEnv "RUST_LOG"
  let mut files : List (String × Except FileError String × Bool) := []
  for path in Program.filesToRead home optionsFile? args do
    files := (path, ← contentOfFile path, ← isFound path) :: files
  let known := files
  let env : Environment := {
    program := ← calledName
    home, optionsFile?, noticeFilter?
    contentOf := fun path => (known.lookup path).elim (.error .missing) Prod.fst
    isPresent := fun path => (known.lookup path).any Prod.snd }
  let result := Program.run env args
  IO.print result.output
  IO.eprint result.errors
  return UInt32.ofNat result.exitCode
