/-!
# Cluster names

Cluster names become host names of containers, so a name has 1 to 32 ASCII letters, digits and
dashes and neither starts nor ends with a dash. `checkName` reports the first rule that a name
breaks.
-/

namespace ClusterPlan

/-- The rule that a cluster name breaks. -/
inductive NameError where
  | empty
  | dashAtEdge (name : String)
  | invalidCharacters (name : String)
  | tooLong (length : Nat)
deriving Repr, DecidableEq

/-- The name of a cluster that was given none. -/
def defaultName : String := "k3s-default"

/-- The number of characters a cluster name may have. -/
def maxNameLength : Nat := 32

/-- The message that reports a broken rule. -/
def NameError.message : NameError → String
  | .empty => "Invalid cluster name: no name provided"
  | .dashAtEdge name => s!"Invalid cluster name: '{name}' must not start or end with - (dash)"
  | .invalidCharacters name =>
    s!"Invalid cluster name: '{name}' contains characters other than 'Aa-Zz', '0-9' or '-'"
  | .tooLong length => s!"Cluster name is too long ({length} > {maxNameLength})"

/-- The characters of cluster names: ASCII letters, digits and the dash. -/
def isNameChar (c : Char) : Bool :=
  c.isAlphanum || c = '-'

/-- Whether a name may be used, or the first rule it breaks. -/
def checkName (name : String) : Except NameError Unit :=
  let cs := name.toList
  if cs = [] then .error .empty
  else if cs.head? = some '-' ∨ cs.getLast? = some '-' then .error (.dashAtEdge name)
  else if ¬ cs.all isNameChar then .error (.invalidCharacters name)
  else if maxNameLength < cs.length then .error (.tooLong cs.length)
  else .ok ()

end ClusterPlan
