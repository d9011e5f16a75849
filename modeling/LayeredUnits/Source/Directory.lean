import LayeredUnits.Event
import LayeredUnits.Unit.Name
import LayeredUnits.Volume.Basic

/-!
# Directories as sources

A directory is walked once, when it is registered. Every regular file below it
that is reached without passing a link and whose relative path names a unit is
a unit of the directory. What cannot be listed on the way is passed over: a
tree of which a part is closed is registered without that part, and a note is
left, at the lowest level. Resources are looked up as they are asked for, and
never outside the directory; for them nothing is listed, so a closed part is
open to them.
-/

namespace LayeredUnits

/-- A registered directory. The units are those of the walk; a file that comes later is no unit of
it, and one that has gone is found missing when it is read. -/
structure Directory where
  /-- The canonical path. -/
  root : String
  /-- The units with their paths, in the order of the walk. -/
  units : List (String × String)

namespace Directory

/-- The units among the files of a tree, with their ways down. A file whose relative path names no
unit is left out without a word. -/
def named (suffix : String) (files : List (List String × Nat)) : List (String × List String) :=
  files.filterMap fun file =>
    (UnitName.ofPath? suffix ("/".intercalate file.1)).map fun name => (name, file.1)

/-- The units without those whose name came before, and the names that came again. No two files of a
tree have one name, so nothing comes again; the walk looks all the same. -/
def firstOfEach (seen : List String) :
    List (String × List String) → List (String × List String) × List String
  | [] => ([], [])
  | unit :: rest =>
    if unit.1 ∈ seen then
      let (kept, again) := firstOfEach seen rest
      (kept, unit.1 :: again)
    else
      let (kept, again) := firstOfEach (unit.1 :: seen) rest
      (unit :: kept, again)

/-- Walks the directory that a path leads to. It is known by its canonical path from then on, so
that it is the same directory whatever happens to the links on the path that was given. -/
def scan (volume : Volume) (path suffix : String) : Except Fault Directory × List Event :=
  match volume.locate path with
  | .error _ => (.error (.invalidSource path .missingDirectory), [])
  | .ok (way, .directory children) =>
    let root := Path.ofComponents way
    let listed := fun below => volume.lists (way ++ below)
    let (units, again) := firstOfEach [] (named suffix ((Node.directory children).files listed))
    (.ok ⟨root, units.map fun unit => (unit.1, Path.ofComponents (way ++ unit.2))⟩,
      ((Node.directory children).barred listed).map
          (fun below => .directoryBarred root (Path.ofComponents (way ++ below))) ++
        again.map (.unitRepeated · root) ++ [.directoryIndexed root units.length])
  | .ok _ => (.error (.invalidSource path .notADirectory), [])

/-- Whether a resource name stays below the directory that it is looked up in: it is not
absolute and never goes up. -/
def staysBelow (name : String) : Bool :=
  !Path.isAbsolute name && (Text.pieces '/' name).all (· != "..")

/-- The path of a resource, if the directory has it as a file. The file may be reached through
links, also through links that lead elsewhere. -/
def resourcePath? (directory : Directory) (volume : Volume) (name : String) : Option String :=
  if staysBelow name then
    let path := Path.join directory.root name
    if volume.isFile path then some path else none
  else none

end Directory

end LayeredUnits
