/-!
# Trees

A `Tree` is structured data as documents hold it: scalars, lists, and records whose fields have
names and an order. A number that is no integer keeps only its text.
-/

namespace ClusterPlan

/-- Structured data. -/
inductive Tree where
  | null
  | bool (value : Bool)
  | int (value : Int)
  /-- A number with a fraction or an exponent, or the number `-0`. -/
  | real (text : String)
  | text (value : String)
  | list (items : List Tree)
  | record (fields : List (String × Tree))
deriving Repr

namespace Tree

/-- A list of texts. -/
def texts (items : List String) : Tree :=
  .list (items.map .text)

end Tree
end ClusterPlan
