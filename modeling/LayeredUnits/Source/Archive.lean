import LayeredUnits.Event
import LayeredUnits.Settings.Text
import LayeredUnits.Text.Utf8
import LayeredUnits.Volume.Read
import LayeredUnits.Zip.Directory
import LayeredUnits.Zip.Entry

/-!
# Archives as sources

The directory of an archive is read once, when the archive is opened; entries
are unpacked as they are asked for. An archive may have a manifest that tells
about the package. A manifest that is missing tells nothing, and one that
cannot be used tells nothing either, with a warning.
-/

namespace LayeredUnits

/-- Where the bytes of an archive are. What is in memory stays; a file may be written again, and
then its archive is read in the new bytes at the old places. -/
inductive Image where
  /-- In memory. -/
  | held (bytes : ByteArray)
  /-- In the file with this number. -/
  | stored (number : Nat)

/-- The bytes of an archive as they are now, in this volume. -/
def Image.bytes (volume : Volume) : Image → ByteArray
  | .held bytes => bytes
  | .stored number => volume.content number

/-- The entry that holds the manifest of a package. No other name is tried. -/
def manifestEntry : String := "META-INF/package.toml"

/-- The largest manifest that is read. A larger one is no use, whatever limit holds for units. -/
def maxManifestSize : Nat := 64 * 1024

/-- What the text of a manifest says. Without a section `package` it says nothing; a section that
does not fit makes the whole manifest malformed. -/
def Package.ofToml (text : String) : Except Fault Package :=
  let read := do
    let fields ← Toml.read? text
    match fields.lookup "package" with
    | none => some Package.empty
    | some value => Package.ofValue? .toml value
  match read with
  | some package => .ok package
  | none => .error (.settingsInvalid manifestEntry .malformed)

/-- A registered archive. Its directory is the one that it had when it was opened. -/
structure Archive where
  /-- What the archive is known by. -/
  origin : String
  image : Image
  entries : List Zip.Record
  /-- The units with their entries, in the order of the names. -/
  units : List (String × String)

namespace Archive

/-- Whether an entry is a file and no directory. An archive marks a directory by a slash at the end
of its name, and by nothing else. -/
def isFileName (name : String) : Bool := !Text.endsWith "/" name

/-- The names of the entries that are files, in the order of the directory of the archive. -/
def files (archive : Archive) : List String :=
  (archive.entries.map (·.name)).filter isFileName

/-- Whether one unit comes before another: by name, and then by entry. The second part only settles
which of two equal units stands first. -/
def comesBefore (a b : String × String) : Bool :=
  decide (a.1 < b.1) || (a.1 == b.1 && decide (a.2 ≤ b.2))

/-- The units among files, sorted by name, so that what is registered does not depend on the order
of the entries. -/
def named (suffix : String) (files : List String) : List (String × String) :=
  (files.filterMap fun file =>
    (UnitName.ofPath? suffix file).map fun name => (name, file)).mergeSort comesBefore

/-- Opens an archive: its directory is read and its units are named. Nothing is unpacked, so an
archive whose entries are broken can be opened. -/
def openImage (volume : Volume) (image : Image) (origin suffix : String) :
    Except Fault Archive × List Event :=
  match Zip.entries? (image.bytes volume) with
  | none => (.error (.invalidSource origin .notAnArchive), [])
  | some entries =>
    let plain : Archive := ⟨origin, image, entries, []⟩
    let units := named suffix plain.files
    (.ok { plain with units := units },
      [.archiveIndexed origin units.length plain.files.length])

theorem openImage_of_entries {archive : Archive} {volume : Volume} {suffix : String}
    (hentries : Zip.entries? (archive.image.bytes volume) = some archive.entries)
    (hunits : named suffix archive.files = archive.units) :
    (openImage volume archive.image archive.origin suffix).1 = .ok archive := by
  obtain ⟨origin, image, entries, units⟩ := archive
  unfold openImage
  rw [hentries]
  exact congrArg (fun units => Except.ok (Archive.mk origin image entries units)) hunits

/-- Opens the archive that a path leads to. It is known by its canonical path. Anything other than a
regular file counts as missing. -/
def openPath (volume : Volume) (path suffix : String) : Except Fault Archive × List Event :=
  match volume.locate path with
  | .ok (way, .file number) =>
    openImage volume (.stored number) (Path.ofComponents way) suffix
  | _ => (.error (.invalidSource path .missingArchive), [])

/-- Whether the archive has a file with exactly this name. Names are not normalized here: `a//b` and
`a/b` are two entries. -/
def hasFile (archive : Archive) (name : String) : Bool := archive.files.contains name

/-- How an entry of the archive is shown, in messages and in reports. -/
def entryText (archive : Archive) (name : String) : String := archive.origin ++ "!/" ++ name

/-- Opens an entry. The fault says which entry it was, and why it could not be opened. -/
def openEntry (archive : Archive) (volume : Volume) (name : String) : Except Fault Blob :=
  match Zip.entryBlob archive.entries (archive.image.bytes volume) name with
  | .ok blob => .ok blob
  | .error cause => .error (.archive ("opening " ++ archive.entryText name) cause)

/-- Reads the unit in an entry. The limit is that of the loader, and the size is the one that the
archive declares. -/
def unitReading (archive : Archive) (volume : Volume) (name : String) (limit : Nat) :
    Blob.Reading :=
  .ofOpened (archive.openEntry volume name) (·.unitReading (archive.entryText name) limit)

/-- Reads the resource in an entry. No limit is set for resources, so only memory stands against a
large size that an archive declares. -/
def resourceReading (archive : Archive) (volume : Volume) (name : String) : Blob.Reading :=
  .ofOpened (archive.openEntry volume name) (·.resourceReading (archive.entryText name))

/-- The bytes of a unit, if memory has room for them. This is the answer of `unitReading`. -/
def unitBytes (archive : Archive) (volume : Volume) (name : String) (limit : Nat) :
    Except Fault ByteArray :=
  (archive.unitReading volume name limit).answer

/-- The bytes of a resource, if memory has room for them. This is the answer of `resourceReading`.
-/
def resourceBytes (archive : Archive) (volume : Volume) (name : String) :
    Except Fault ByteArray :=
  (archive.resourceReading volume name).answer

theorem unitBytes_eq (archive : Archive) (volume : Volume) (name : String) (limit : Nat) :
    archive.unitBytes volume name limit = archive.openEntry volume name >>= fun blob =>
      blob.within (archive.entryText name) 1 (min limit maxSize) :=
  Blob.Reading.answer_ofOpened ..

theorem resourceBytes_eq (archive : Archive) (volume : Volume) (name : String) :
    archive.resourceBytes volume name = archive.openEntry volume name >>= fun blob =>
      blob.within (archive.entryText name) 0 maxSize :=
  Blob.Reading.answer_ofOpened ..

/-- What the manifest says, if it can be used. It is read like a unit, so it may not be empty
either. -/
def manifest (archive : Archive) (volume : Volume) : Except Fault Package := do
  let bytes ← archive.unitBytes volume manifestEntry maxManifestSize
  match Text.Utf8.decode bytes with
  | .error defect => .error (.user ("manifest is not UTF-8: " ++ defect.text))
  | .ok text => Package.ofToml text

/-- What is known about the package. A manifest that is missing is nothing to speak of, and one that
cannot be used is told of: the units of the archive are defined all the same. -/
def package (archive : Archive) (volume : Volume) : Package × List Event :=
  if archive.hasFile manifestEntry then
    match archive.manifest volume with
    | .ok package => (package, [])
    | .error fault => (.empty, [.manifestIgnored archive.origin fault])
  else (.empty, [])

/-- How an archive is shown to somebody who debugs a program. The entries are those that
are files. -/
def text (archive : Archive) : String :=
  "ArchiveSource \x7b origin: " ++ Text.quoted archive.origin ++
    ", units: " ++ toString archive.units.length ++
    ", entries: " ++ toString archive.files.length ++ " \x7d"

end Archive

end LayeredUnits
