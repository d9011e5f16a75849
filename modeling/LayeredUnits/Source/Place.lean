import LayeredUnits.Source.Archive
import LayeredUnits.Source.Directory

/-!
# Where the bytes of a unit are

Registration notes for each unit the place of its bytes; they are read when
the unit is asked for.
-/

namespace LayeredUnits

/-- Opens the file at a path. The fault names the path, since whoever reads a place does not know
what kind of place it is. -/
def Volume.opened (volume : Volume) (path : String) : Except Fault Blob :=
  match volume.open? path with
  | .ok blob => .ok blob
  | .error kind => .error (.io ("opening " ++ path) (.io kind))

/-- The place of the bytes of a unit. It holds all that is needed to read them, so a place can be
read after its source has been overtaken. -/
inductive Place where
  /-- A file of a directory. -/
  | file (root path : String)
  /-- An entry of the archive that was registered as the one with this number. -/
  | entry (number : Nat) (archive : Archive) (name : String)

namespace Place

/-- How a place is shown when its copy is skipped. -/
def text : Place → String
  | .file _ path => path
  | .entry _ archive name => archive.entryText name

/-- Reads the unit at a place: it is not empty and has at most `limit` bytes. The same rule holds
for files and for entries. -/
def reading (place : Place) (volume : Volume) (limit : Nat) : Blob.Reading :=
  match place with
  | .file _ path => .ofOpened (volume.opened path) (·.unitReading path limit)
  | .entry _ archive name => archive.unitReading volume name limit

/-- The bytes of the unit at a place, if memory has room for them. A lookup tries the next place if
this fails. -/
def read (place : Place) (volume : Volume) (limit : Nat) : Except Fault ByteArray :=
  (place.reading volume limit).answer

@[simp] theorem read_entry (number : Nat) (archive : Archive) (name : String) (volume : Volume)
    (limit : Nat) :
    (entry number archive name).read volume limit = archive.unitBytes volume name limit := rfl

/-- Where a unit says that it came from, if its bytes were read here. Of a file only the root of its
directory is told, and of an entry only what its archive is known by, so units of one source share
their origin. -/
def origin : Place → Origin
  | .file root _ => .directory root
  | .entry _ archive _ => .archive archive.origin

@[simp] theorem origin_file (root path : String) :
    (file root path).origin = .directory root := rfl

@[simp] theorem origin_entry (number : Nat) (archive : Archive) (name : String) :
    (entry number archive name).origin = .archive archive.origin := rfl

end Place

end LayeredUnits
