import LayeredUnits.Bytes.Crc32
import LayeredUnits.Bytes.Little
import LayeredUnits.Text.Cp437
import LayeredUnits.Text.Utf8

/-!
# Records of a zip directory

The central directory of a zip file has a record for each entry: its name, how
it is packed, its sizes and checksum, and where its local header lies. Extra
fields may widen sizes and offsets beyond 32 bits, or give the name in another
encoding. Extra fields that end too early are used as far as they go.
-/

namespace LayeredUnits.Zip

open Bytes (little slice)

/-- One entry as the central directory describes it. Nothing makes sure that the archive keeps to
it: sizes may be too large, and headers may lie anywhere. -/
structure Record where
  name : String
  /-- The name as it is written. -/
  rawName : ByteArray
  /-- The comment as text. -/
  comment : String
  method : Nat
  encrypted : Bool
  checksum : UInt32
  /-- The number of bytes that the entry takes up in the archive. -/
  packedSize : Nat
  /-- The number of bytes of the unpacked entry. -/
  size : Nat
  /-- Where the local header lies. -/
  header : Nat

/-- The number that stands for "see the extra field", since it is too large for the field where it
stands. -/
def widened : Nat := 0xFFFFFFFF

/-- The method number that says that an extra field tells the method. An entry that still has it
when all fields are read makes the archive no archive. -/
def sealedMethod : Nat := 99

/-- What an extra field does to a record. Fields that end early do no harm; fields that contradict
themselves do. -/
inductive Extra where
  /-- The record is changed, and the next field starts at `next`. -/
  | applied (record : Record) (next : Nat)
  /-- The fields end early. -/
  | short (record : Record)
  | refused

/-- Reads a number of eight bytes if the record needs it. The numbers that are there stand one after
the other, without gaps for those that are not. -/
def widen (extra : ByteArray) (wanted : Bool) (set : Nat → Record → Record) :
    Record × Nat → Except Record (Record × Nat)
  | (record, start) =>
    if wanted then
      if start + 8 ≤ extra.size then .ok (set (little extra start 8) record, start + 8)
      else .error record
    else .ok (record, start)

/-- Sizes and offsets of eight bytes, for those that do not fit into four. -/
def applyWide (extra : ByteArray) (start length : Nat) (record : Record) : Extra :=
  let all := 24 ≤ length
  let read := do
    let next ← widen extra (all || record.size == widened)
      (fun n r => { r with size := n }) (record, start)
    let next ← widen extra (all || record.packedSize == widened)
      (fun n r => { r with packedSize := n }) next
    widen extra (all || record.header == widened) (fun n r => { r with header := n }) next
  match read with
  | .error record => .short record
  | .ok (record, next) =>
    if start + length < next then .refused
    else if extra.size < start + length then .short record
    else .applied record (start + length)

/-- The text of a field that repeats a text in UTF-8 and carries the checksum of the
text that it repeats. -/
def repeated (extra : ByteArray) (start length : Nat) (plain : ByteArray) :
    Option (Option String) :=
  if extra.size < start + 5 then some none
  else if length < 5 then none
  else if extra.size < start + length then some none
  else if little extra (start + 1) 4 ≠ (Bytes.Crc32.checksum plain).toNat then none
  else
    match Text.Utf8.decode (slice extra (start + 5) (length - 5)) with
    | .ok text => some (some text)
    | .error _ => none

/-- The method of an entry that a password seals. -/
def applySealed (extra : ByteArray) (start length : Nat) (record : Record) : Extra :=
  if length ≠ 7 then .refused
  else if extra.size < start + 7 then .short record
  else
    let version := little extra start 2
    let strength := little extra (start + 4) 1
    -- The mark of the vendor, and the versions and strengths that there are.
    if little extra (start + 2) 2 ≠ 0x4541 ∨ version < 1 ∨ 2 < version ∨
        strength < 1 ∨ 3 < strength then .refused
    else .applied { record with method := little extra (start + 5) 2 } (start + 7)

/-- How many bits of the lowest eight are set, each of which stands for four bytes of a point in
time. -/
def bitCount (flags : Nat) : Nat := (List.range 8).countP flags.testBit

/-- One extra field. Fields of unknown kinds are passed over by their length. -/
def applyExtra (extra : ByteArray) (start : Nat) (record : Record) : Extra :=
  if extra.size < start + 4 then .short record
  else
    let length := little extra (start + 2) 2
    let start' := start + 4
    match little extra start 2 with
    | 0x0001 => applyWide extra start' length record
    | 0x5455 =>
      -- Points in time. Nobody asks for them, and their length is checked all the same.
      if extra.size < start' + 1 then .short record
      else if length ≠ 5 ∧ length ≠ 1 + 4 * bitCount (little extra start' 1) then .refused
      else if extra.size < start' + length then .short record
      else .applied record (start' + length)
    | 0x6375 =>
      -- The comment once more, and below the name, each with the checksum of the text that it
      -- replaces.
      match repeated extra start' length record.comment.toUTF8 with
      | none => .refused
      | some none => .short record
      | some (some text) => .applied { record with comment := text } (start' + length)
    | 0x7075 =>
      match repeated extra start' length record.rawName with
      | none => .refused
      | some none => .short record
      | some (some text) =>
        .applied { record with name := text, rawName := text.toUTF8 } (start' + length)
    | 0x9901 => applySealed extra start' length record
    | _ =>
      if extra.size < start' + length then .short record
      else .applied record (start' + length)

/-- All extra fields, one after the other. Each takes four bytes at least, so `fields`
bounds how many there are. -/
def applyExtras (extra : ByteArray) : Nat → Nat → Record → Option Record
  | 0, _, record => some record
  | fields + 1, start, record =>
    if extra.size ≤ start then some record
    else
      match applyExtra extra start record with
      | .applied record next => applyExtras extra fields next record
      | .short record => some record
      | .refused => none

/-- The record that starts at a place, with the place after it. `shift` is how far the
whole archive lies from the beginning of the file. -/
def Record.ofBytes? (file : ByteArray) (shift start : Nat) : Option (Record × Nat) :=
  if !Bytes.hasSignature file 0x02014B50 start || file.size < start + 46 then none
  else
    let nameLength := little file (start + 28) 2
    let extraLength := little file (start + 30) 2
    let commentLength := little file (start + 32) 2
    let next := start + 46 + nameLength + extraLength + commentLength
    if file.size < next then none
    else
      let flags := little file (start + 8) 2
      let method := little file (start + 10) 2
      let rawName := slice file (start + 46) nameLength
      let rawComment := slice file (start + 46 + nameLength + extraLength) commentLength
      -- The bit says that the texts are in UTF-8.
      let text (raw : ByteArray) : String :=
        if flags.testBit 11 then Text.Utf8.decodeLossy raw else Text.Cp437.decode raw
      let plain : Record := {
        name := text rawName
        rawName := rawName
        comment := text rawComment
        method := method
        encrypted := flags.testBit 0
        checksum := UInt32.ofNat (little file (start + 16) 4)
        packedSize := little file (start + 20) 4
        size := little file (start + 24) 4
        header := little file (start + 42) 4 }
      let extra := slice file (start + 46 + nameLength) extraLength
      match applyExtras extra extra.size 0 plain with
      | none => none
      | some record =>
        if record.method = sealedMethod then none
        else some ({ record with header := record.header + shift }, next)

/-- So many records, one after the other. One that cannot be read leaves none of them. -/
def Record.listOfBytes? (file : ByteArray) (shift : Nat) : Nat → Nat → Option (List Record)
  | 0, _ => some []
  | count + 1, start => do
    let (record, next) ← Record.ofBytes? file shift start
    let rest ← Record.listOfBytes? file shift count next
    some (record :: rest)

end LayeredUnits.Zip
