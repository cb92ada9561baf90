import ClusterPlan.Text.Split

/-!
# Volume mounts

A mount is written `[SRC:]DEST[:MODE]`: a source, which is an absolute path of the host or the name
of an existing volume, an absolute path in the container, and `ro` or `rw`. A source alone is
mounted at its own path. `Mount.read` reports the first of these conditions that fails, and
`Mount.text` writes a mount with its source and destination.
-/

namespace ClusterPlan

/-- Whether a mount may be written to. -/
inductive MountMode where
  | readOnly
  | readWrite
deriving Repr, DecidableEq

/-- The word for a mode. -/
def MountMode.word : MountMode → String
  | .readOnly => "ro"
  | .readWrite => "rw"

/-- A source mounted at a destination. -/
structure Mount where
  source : String
  destination : String
  mode? : Option MountMode
deriving Repr, DecidableEq

/-- Why a text is no mount. -/
inductive MountError where
  | tooManySeparators (mount : String)
  | emptyPart (mount : String)
  | invalidSource (mount source : String)
  | relativeDestination (mount destination : String)
  | invalidMode (mount mode : String)
deriving Repr, DecidableEq

/-- The message that reports a failure. -/
def MountError.message : MountError → String
  | .tooManySeparators mount => s!"Invalid volume mount '{mount}': maximal 2 ':' allowed"
  | .emptyPart mount => s!"Invalid volume mount '{mount}': SRC and DEST must not be empty"
  | .invalidSource mount source =>
    s!"Invalid volume mount '{mount}': SRC ({source}) must be absolute path or name of existing " ++
      "volume"
  | .relativeDestination mount destination =>
    "Volume mount destination doesn't appear to be an absolute path: " ++
      s!"'{destination}' in '{mount}'"
  | .invalidMode mount mode =>
    s!"Invalid volume mount '{mount}': unknown mode '{mode}' (expected 'ro' or 'rw')"

namespace Mount

/-- Whether a path starts at the root. -/
def isAbsolute (path : List Char) : Bool :=
  path.head? = some '/'

/-- The source, the destination and the mode of a mount, as far as colons separate them. -/
def parts? (cs : List Char) : Option (List Char × List Char × Option (List Char)) :=
  match Text.fields ':' cs with
  | [source] => some (source, source, none)
  | [source, destination] => some (source, destination, none)
  | [source, destination, mode] => some (source, destination, some mode)
  | _ => none

/-- The mode with a word. -/
def modeOf? (word : List Char) : Option MountMode :=
  if word = "ro".toList then some .readOnly
  else if word = "rw".toList then some .readWrite
  else none

/-- The mount that a text denotes, where `isVolume` tells the names of existing volumes. -/
def read (isVolume : String → Bool) (text : String) : Except MountError Mount :=
  match parts? text.toList with
  | none => .error (.tooManySeparators text)
  | some (src, dest, word?) =>
    let source := String.ofList src
    let destination := String.ofList dest
    if src = [] ∨ dest = [] then .error (.emptyPart text)
    else if ¬ isAbsolute src ∧ ¬ isVolume source then .error (.invalidSource text source)
    else if ¬ isAbsolute dest then .error (.relativeDestination text destination)
    else match word? with
      | none => .ok { source, destination, mode? := none }
      | some word =>
        match modeOf? word with
        | none => .error (.invalidMode text (String.ofList word))
        | some mode => .ok { source, destination, mode? := some mode }

/-- A mount with its source and destination, and its mode if it has one. -/
def text (m : Mount) : String :=
  s!"{m.source}:{m.destination}" ++
    match m.mode? with
    | none => ""
    | some mode => s!":{mode.word}"

end Mount
end ClusterPlan
