import ClusterPlan.Json.Token

/-!
# Reading JSON

`Json.read?` gives the tree that a JSON text writes. The tokens are read from left to right; what is
open at a point, the lists and records with what was read of them so far, is a stack of frames.
-/

namespace ClusterPlan.Json

/-- A list or a record in which a value stands. -/
inductive Frame where
  /-- A list, with the items before the value, the last one first. -/
  | list (items : List Tree)
  /-- A record, with the fields before the value, the last one first, and the name of the value. -/
  | record (fields : List (String × Tree)) (name : String)
deriving Repr

/-- What is to come next inside the open frames. -/
inductive Place where
  /-- A value. -/
  | value
  /-- The first item of a list, or its end. -/
  | firstItem
  /-- The name of a field after `fields`. -/
  | name (fields : List (String × Tree))
  /-- The name of the first field of a record, or its end. -/
  | firstName
  /-- The colon after the name of a field. -/
  | colon (fields : List (String × Tree)) (name : String)
  /-- What goes on after a value: a comma, the end of a list or record, or nothing. -/
  | after (value : Tree)
deriving Repr

/-- The place after a token that starts a value, with the frames that are open there. -/
def startValue? (frames : List Frame) : Token → Option (Place × List Frame)
  | .openList => some (.firstItem, frames)
  | .openRecord => some (.firstName, frames)
  | .text s => some (.after (.text s), frames)
  | .word v => some (.after v, frames)
  | _ => none

/-- The place after a token, with the frames that are open there. -/
def step? (frames : List Frame) : Place → Token → Option (Place × List Frame)
  | .value, token => startValue? frames token
  | .firstItem, .closeList => some (.after (.list []), frames)
  | .firstItem, token => startValue? (.list [] :: frames) token
  | .name fields, .text name => some (.colon fields name, frames)
  | .firstName, .text name => some (.colon [] name, frames)
  | .firstName, .closeRecord => some (.after (.record []), frames)
  | .colon fields name, .colon => some (.value, .record fields name :: frames)
  | .after value, .comma =>
    match frames with
    | .list items :: _ => some (.value, .list (value :: items) :: frames.tail)
    | .record fields name :: outer => some (.name ((name, value) :: fields), outer)
    | [] => none
  | .after value, .closeList =>
    match frames with
    | .list items :: outer => some (.after (.list (value :: items).reverse), outer)
    | _ => none
  | .after value, .closeRecord =>
    match frames with
    | .record fields name :: outer =>
      some (.after (.record ((name, value) :: fields).reverse), outer)
    | _ => none
  | _, _ => none

/-- The tree that tokens make up from a place on. -/
def run? (place : Place) (frames : List Frame) : List Token → Option Tree
  | [] =>
    match place, frames with
    | .after value, [] => some value
    | _, _ => none
  | token :: tokens =>
    match step? frames place token with
    | none => none
    | some (place, frames) => run? place frames tokens

/-- The tree that a text writes. -/
def read? (text : String) : Option Tree :=
  (tokens? text.toList).bind (run? .value [])

end ClusterPlan.Json
