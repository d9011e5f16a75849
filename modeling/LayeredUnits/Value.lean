/-!
# Structured values

The values that configuration texts are made of, whatever notation they are
written in. Of numbers with a fraction and of points in time only their kind
is kept, because nothing in this library asks for one.
-/

namespace LayeredUnits

/-- A structured value. Nothing rules out here that a table has two fields of one name; then the
first one counts. -/
inductive Value where
  | null
  | boolean (value : Bool)
  | integer (value : Int)
  /-- A number that is not an integer. -/
  | real
  | text (value : String)
  /-- A date, a time, or both. -/
  | moment
  | list (items : List Value)
  | table (fields : List (String × Value))
deriving Inhabited

end LayeredUnits
