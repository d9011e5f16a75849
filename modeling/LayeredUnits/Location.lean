/-!
# Where a resource was found
-/

namespace LayeredUnits

/-- The place of a resource, as far as anybody outside a loader can see it. Whether it still holds
anything shows only when it is opened. -/
inductive Location where
  /-- A file of a registered directory. -/
  | file (path : String)
  /-- An entry of a registered archive, which is known by its origin. -/
  | entry (origin name : String)
  /-- A place that only the host understands. -/
  | hosted (text : String)
deriving DecidableEq, Repr

/-- The address of the place. Two places can have one address: an archive is named by its origin
there, and several archives may go by the same one. -/
def Location.text : Location → String
  | .file path => "file://" ++ path
  | .entry origin name => "zip:" ++ origin ++ "!/" ++ name
  | .hosted text => text

end LayeredUnits
