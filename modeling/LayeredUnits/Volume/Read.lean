import LayeredUnits.Source.Blob
import LayeredUnits.Text.Utf8
import LayeredUnits.Volume.Basic

/-!
# Reading files of a volume

A path is opened as a blob: what it leads to declares its size, and the data
comes when it is read. A directory can be opened too, but not read.
-/

namespace LayeredUnits.Volume

/-- The size that a directory declares. Within the limit a reader gets past the check of the size
with it, and fails at the data. -/
def directorySize : Nat := 4096

/-- Opens what a path leads to. To open a directory is no failure; to read it is. -/
def open? (volume : Volume) (path : String) : Except IoKind Blob :=
  match volume.locate path with
  | .error kind => .error kind
  | .ok (_, .file number) =>
    let data := volume.content number
    .ok ⟨data.size, ⟨data, none⟩⟩
  | .ok (_, _) => .ok ⟨directorySize, ⟨.empty, some .isADirectory⟩⟩

/-- All bytes of a file, at whatever size it has now. -/
def fileBytes (volume : Volume) (path : String) : Except IoKind ByteArray := do
  let blob ← volume.open? path
  blob.stream.all

/-- The text of a file, which has to be UTF-8. Bytes that are not come to a failure of their own
kind. -/
def readText (volume : Volume) (path : String) : Except IoKind String := do
  let bytes ← volume.fileBytes path
  match Text.Utf8.decode bytes with
  | .ok text => .ok text
  | .error _ => .error .invalidData

end LayeredUnits.Volume
