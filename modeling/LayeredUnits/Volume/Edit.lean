import LayeredUnits.Volume.Change

/-!
# Edits

Single changes that somebody else makes to a volume while loaders work on it.
What is to be put somewhere gets the directories on the way made for it, and an
edit that is not possible changes nothing.
-/

namespace LayeredUnits

/-- A change to a volume that somebody else makes. No loader makes any. -/
inductive Edit where
  | file (path : String) (content : ByteArray)
  | link (path target : String)
  | directory (path : String)
  /-- A file, a link or a whole directory is taken away. -/
  | removal (path : String)

namespace Edit

/-- The volume with the directory of a path made, so that something can be put at the path. -/
def withParent (volume : Volume) (path : String) : Except IoKind Volume :=
  match Path.parent? path with
  | none => .ok volume
  | some parent => volume.makeDirectories parent

/-- The volume after an edit, if it is possible. There is nothing between: an edit is made whole or
it fails. -/
def attempt (volume : Volume) : Edit → Except IoKind Volume
  | .file path content => do (← withParent volume path).writeFile path content
  | .link path target => do (← withParent volume path).makeLink path target
  | .directory path => volume.makeDirectories path
  | .removal path => volume.remove path

/-- The volume after an edit. One that is not possible leaves everything as it was. -/
def apply (volume : Volume) (edit : Edit) : Volume :=
  match edit.attempt volume with
  | .ok changed => changed
  | .error _ => volume

end Edit

end LayeredUnits
