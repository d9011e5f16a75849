import LayeredUnits.Deflate.Inflate
import LayeredUnits.Zip.Record

/-!
# Opening entries of a zip file

An entry is opened through its local header, which says where its data starts;
everything else is taken from the record. Entries are stored or deflated. The
checksum is compared when the data ends, so it fails only a reader that asks
for more than there is.
-/

namespace LayeredUnits.Zip

open Bytes (little slice)

/-- The data of an entry with its checksum compared at the end. Data that breaks off before its end
is not compared with anything. -/
def verified (checksum : UInt32) (stream : Stream) : Stream :=
  match stream.failure with
  | some _ => stream
  | none =>
    if Bytes.Crc32.checksum stream.data = checksum then stream
    else { stream with failure := some .invalidData }

/-- Opens an entry. What the local header says of the entry is not compared with the record, but for
the lengths that say where the data starts. -/
def Record.blob (record : Record) (file : ByteArray) : Except EntryFault Blob :=
  if record.encrypted then .error .unsupported
  else if file.size < record.header + 30 then .error (.io .unexpectedEof)
  else if !Bytes.hasSignature file 0x04034B50 record.header then .error .invalid
  else
    let start := record.header + 30 + little file (record.header + 26) 2 +
      little file (record.header + 28) 2
    let packed := slice file start record.packedSize
    match record.method with
    | 0 => .ok ⟨record.size, verified record.checksum ⟨packed, none⟩⟩
    | 8 => .ok ⟨record.size, verified record.checksum (Deflate.inflate packed)⟩
    | _ => .error .unsupported

/-- Opens the entry with this name. Names are those of the directory, so no two entries have one
name. -/
def entryBlob (entries : List Record) (file : ByteArray) (name : String) :
    Except EntryFault Blob :=
  match entries.find? (·.name == name) with
  | none => .error .absent
  | some record => record.blob file

end LayeredUnits.Zip
