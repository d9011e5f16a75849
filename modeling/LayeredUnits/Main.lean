import LayeredUnits.Command.Run

/-!
# The program

The program copies the part of the file system that its run looks at into a
volume, runs on that, and then writes what the run wrote. Only this module
touches the world outside, and it decides nothing.
-/

namespace LayeredUnits.Snapshot

/-- The part of the file system that has been copied. -/
structure Copy where
  volume : Volume
  /-- The directories that have been copied with all that is in them. -/
  complete : List String := []

/-- A step of copying. -/
abbrev Copying := StateT Copy IO

/-- Makes a change to the copy. -/
def change (edit : Edit) : Copying Unit :=
  modify fun copy => { copy with volume := edit.apply copy.volume }

/-- Does something as far as the file system allows it. -/
def tolerating (action : Copying Unit) : Copying Unit := fun copy => do
  try action copy catch _ => return ((), copy)

mutual

/-- Copies a directory with all that is in it. -/
partial def copyInside (directory : String) : Copying Unit := do
  let real ← IO.FS.realPath directory
  unless (← get).complete.contains real.toString do
    modify fun copy => { copy with complete := real.toString :: copy.complete }
    if ← real.isDir then
      for entry in ← real.readDir do
        tolerating (copyName true real.toString entry.fileName)

/-- Copies what a name in a directory stands for, and what is in it if `inside`. Links
lead to the real place of what they stand for. -/
partial def copyName (inside : Bool) (directory name : String) : Copying Unit := do
  let real ← IO.FS.realPath directory
  let node := real / name
  match (← node.symlinkMetadata).type with
  | .file => change (.file node.toString (← IO.FS.readBinFile node))
  | .dir =>
    change (.directory node.toString)
    if inside then copyInside node.toString
  | .symlink =>
    let target ← IO.FS.realPath node
    change (.link node.toString target.toString)
    match target.parent, target.fileName with
    | some parent, some name => copyName inside parent.toString name
    | _, _ => return ()
  | _ => return ()

end

/-- Copies everything on the way along a path. -/
def copyWay (path : String) : List String → Copying Unit
  | [] => tolerating (copyInside path)
  | name :: rest => do
    if name != "" && name != "." && name != ".." then
      tolerating (copyName false path name)
    copyWay (path ++ "/" ++ name) rest

/-- Copies what some paths lead to. -/
def ofPaths (here : String) (paths : List String) : Copying Unit :=
  paths.forM fun path => copyWay "/" (Text.pieces '/' (Path.join here path))

end LayeredUnits.Snapshot

open LayeredUnits

/-- Runs the program with these arguments. -/
def main (arguments : List String) : IO UInt32 := do
  let environment : Command.Environment :=
    { home := (← IO.getEnv "HOME").filter (· != "")
      settingsHome := ← IO.getEnv "XDG_CONFIG_HOME"
      settingsPath := ← IO.getEnv "STRATA_CONFIG" }
  let here := (← IO.currentDir).toString
  let copy : Snapshot.Copy :=
    { volume := { home := (Text.pieces '/' here).filter (· != "") } }
  let (_, copy) ← (Snapshot.ofPaths here
    (Command.pathsRead environment arguments copy.volume)).run copy
  let (_, copy) ← (Snapshot.ofPaths here
    (Command.pathsRead environment arguments copy.volume)).run copy
  let outcome := Command.run environment arguments copy.volume
  match Command.settingsWritten environment arguments copy.volume outcome.volume with
  | none => pure ()
  | some (path, content) =>
    match Path.parent? path with
    | some parent => unless parent == "" do IO.FS.createDirAll parent
    | none => pure ()
    IO.FS.writeBinFile path content
  let output ← IO.getStdout
  output.write outcome.output
  output.flush
  for line in outcome.report do
    IO.eprintln line
  return UInt32.ofNat outcome.code
