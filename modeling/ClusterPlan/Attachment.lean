import ClusterPlan.Filter.Flag
import ClusterPlan.Text.Quoted

/-!
# Attachments

What is attached to nodes is kept per resource: a specification, such as a mount, and the filters
that ask for it. An `AttachmentMap` keeps its entries in the order in which the specifications were
first added. Volumes given repeatedly are merged (`AttachmentMap.merge`), ports must differ
(`AttachmentMap.insertUnique`).
-/

namespace ClusterPlan

/-- A resource and the filters that select its nodes; no filter selects all. -/
structure Attachment where
  spec : String
  filters : List String
deriving Repr, DecidableEq

/-- Why ports cannot be attached. -/
inductive AttachmentError where
  | duplicatePort (spec : String)
  | tooManyPortFilters (spec : String) (count : Nat)
deriving Repr, DecidableEq

/-- The message that reports a failure. -/
def AttachmentError.message : AttachmentError → String
  | .duplicatePort spec => s!"Same port mapping '{spec}' can not be used for multiple nodes"
  | .tooManyPortFilters spec count =>
    s!"Can only apply port mapping '{spec}' to one node filter, got {count}"

/-- Attachments in the order in which their specifications were first added. -/
structure AttachmentMap where
  entries : List Attachment := []
deriving Repr, DecidableEq

namespace AttachmentMap

/-- The entry of a specification. -/
def get? (m : AttachmentMap) (spec : String) : Option Attachment :=
  m.entries.find? (·.spec = spec)

/-- Whether a specification has an entry. -/
def contains (m : AttachmentMap) (spec : String) : Bool :=
  (m.get? spec).isSome

/-- The number of entries. -/
def size (m : AttachmentMap) : Nat :=
  m.entries.length

/-- The filters `more` after `filters`, each of them that is not there yet. -/
def mergeFilters (filters more : List String) : List String :=
  more.foldl (fun fs f => if f ∈ fs then fs else fs ++ [f]) filters

/-- Adds an attachment; an entry that is there takes up the filters that it lacks. -/
def merge (m : AttachmentMap) (a : Attachment) : AttachmentMap :=
  if m.contains a.spec then
    ⟨m.entries.map fun e =>
      if e.spec = a.spec then { e with filters := mergeFilters e.filters a.filters } else e⟩
  else ⟨m.entries ++ [a]⟩

/-- Adds an attachment whose specification has no entry. -/
def insertUnique (m : AttachmentMap) (a : Attachment) : Except AttachmentError AttachmentMap :=
  if m.contains a.spec then .error (.duplicatePort a.spec) else .ok ⟨m.entries ++ [a]⟩

/-- The attachments of volumes; those of one mount are merged. -/
def ofVolumes (attachments : List Attachment) : AttachmentMap :=
  attachments.foldl merge {}

/-- Adds the attachment of a port, which has at most one filter. -/
def insertPort (m : AttachmentMap) (a : Attachment) : Except AttachmentError AttachmentMap :=
  if 1 < a.filters.length then .error (.tooManyPortFilters a.spec a.filters.length)
  else m.insertUnique a

/-- The attachments of ports; each mapping is given once and has at most one filter. -/
def ofPorts (attachments : List Attachment) : Except AttachmentError AttachmentMap :=
  attachments.foldlM insertPort {}

/-- The text that shows a map to those who look for a fault. -/
def shown (m : AttachmentMap) : String :=
  let entry (a : Attachment) : String :=
    s!"Attachment \x7b spec: {Text.quoted a.spec}, filters: {Text.quotedList a.filters} \x7d"
  let entries := String.intercalate ", " (m.entries.map entry)
  s!"AttachmentMap \x7b entries: [{entries}] \x7d"

end AttachmentMap
end ClusterPlan
