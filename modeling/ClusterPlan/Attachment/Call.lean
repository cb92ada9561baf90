import ClusterPlan.Attachment

/-!
# Calls on attachment maps

All that can be asked of an `AttachmentMap`, as data, with what is answered. Calls are made one after the
other (`AttachmentMap.callAll`); one that is refused leaves the map as it is.
-/

namespace ClusterPlan

/-- What can be asked of a map of attachments. -/
inductive AttachmentCall where
  | merge (a : Attachment)
  | insertUnique (a : Attachment)
  | get (spec : String)
  | contains (spec : String)
deriving Repr, DecidableEq

/-- What a call on a map of attachments answers. -/
inductive AttachmentAnswer where
  | done
  | refused (e : AttachmentError)
  | entry (found? : Option Attachment)
  | presence (isPresent : Bool)
deriving Repr, DecidableEq

namespace AttachmentMap

/-- The answer to a call, and the map after it. -/
def call (m : AttachmentMap) : AttachmentCall → AttachmentAnswer × AttachmentMap
  | .merge a => (.done, m.merge a)
  | .insertUnique a =>
    match m.insertUnique a with
    | .error e => (.refused e, m)
    | .ok m => (.done, m)
  | .get spec => (.entry (m.get? spec), m)
  | .contains spec => (.presence (m.contains spec), m)

/-- Makes calls one after the other, with the answer to each and the map after it. -/
def callAll (m : AttachmentMap) : List AttachmentCall → List (AttachmentAnswer × AttachmentMap)
  | [] => []
  | c :: calls => m.call c :: callAll (m.call c).2 calls

end AttachmentMap
end ClusterPlan
