import LayeredUnits.Volume.Basic

/-!
# Changes to a volume

Writing a file, making directories and links, and taking names away. A file
that is written again keeps its number, so whoever has it open reads the new
contents; a file whose name is taken away keeps its contents.
-/

namespace LayeredUnits.Volume

/-- A new file in a directory, with the next number that is free. The name must not be taken. -/
def addFile (volume : Volume) (directory : List String) (name : String)
    (content : ByteArray) : Volume :=
  { volume with
    root := volume.root.put (some (.file volume.contents.size)) (directory ++ [name])
    contents := volume.contents.push content }

/-- Writes a file, a new one or the one that is there. The directory has to be there, and a link is
written through. -/
def writeFile (volume : Volume) (path : String) (content : ByteArray) :
    Except IoKind Volume := do
  match ← volume.walk true path with
  | .found _ (.file number) =>
    .ok { volume with contents := volume.contents.setIfInBounds number content }
  | .found .. => .error .isADirectory
  | .vacant directory name slashed =>
    if slashed then .error .isADirectory else .ok (volume.addFile directory name content)

/-- Makes one directory, where nothing is yet and the directory above it is there. -/
def makeDirectory (volume : Volume) (path : String) : Except IoKind Volume := do
  match ← volume.walk false path with
  | .found .. => .error .alreadyExists
  | .vacant directory name _ =>
    .ok { volume with root := volume.root.put (some (.directory [])) (directory ++ [name]) }

/-- Makes one directory, which may be there already, made by somebody else or under another name. -/
def ensureDirectory (volume : Volume) (path : String) : Except IoKind Volume :=
  match volume.makeDirectory path with
  | .ok changed => .ok changed
  | .error kind => if volume.isDirectory path then .ok volume else .error kind

/-- Makes a directory and, as far as they are missing, the directories on the way to it. `depth`
bounds how many. No path has more names than characters, so its length is enough. -/
def makeDirectoriesWithin (volume : Volume) : Nat → String → Except IoKind Volume
  | 0, _ => .ok volume
  | depth + 1, path =>
    if path = "" then .ok volume
    else
      match volume.makeDirectory path with
      | .ok changed => .ok changed
      | .error .notFound =>
        match Path.parent? path with
        | none => .error .notFound
        | some parent => do
          let changed ← volume.makeDirectoriesWithin depth parent
          changed.ensureDirectory path
      | .error kind => if volume.isDirectory path then .ok volume else .error kind

/-- Makes a directory and the directories on the way to it. What has been made before a failure
stays made. -/
def makeDirectories (volume : Volume) (path : String) : Except IoKind Volume :=
  volume.makeDirectoriesWithin (path.length + 1) path

/-- Makes a symbolic link, whether there is anything at its target or not. -/
def makeLink (volume : Volume) (path target : String) : Except IoKind Volume := do
  match ← volume.walk false path with
  | .found .. => .error .alreadyExists
  | .vacant directory name _ =>
    .ok { volume with root := volume.root.put (some (.link target)) (directory ++ [name]) }

/-- Takes a file, a link or a whole directory away. A link is taken away itself, and not what it
leads to. -/
def remove (volume : Volume) (path : String) : Except IoKind Volume := do
  match ← volume.walk false path with
  | .found way _ => .ok { volume with root := volume.root.put none way }
  | .vacant .. => .error .notFound

end LayeredUnits.Volume
