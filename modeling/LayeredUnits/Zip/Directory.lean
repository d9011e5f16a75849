import LayeredUnits.Zip.Record

/-!
# Finding the directory of a zip file

A zip file is read from its end. The end record says how many entries there
are and where their records start, counted from the beginning of the archive,
which need not be the beginning of the file: whatever lies before the archive
shifts it. Bytes that only look like an end record are passed over, and the
search goes on before them.
-/

namespace LayeredUnits.Zip

open Bytes (little)

/-- What the end of an archive says about its directory, in whichever of the two forms it is
written. -/
structure Ending where
  /-- The number of records. -/
  count : Nat
  /-- Where the first record lies, counted from the beginning of the archive. -/
  offset : Nat
  /-- Where the archive begins in the file. -/
  shift : Nat
  /-- Whether all of the archive is on one disk. -/
  whole : Bool

/-- The end record for large archives that lies at a place, if it agrees with what its
locator says. -/
def largeEnding? (file : ByteArray) (claimed disk locator start : Nat) : Option Ending :=
  let length := little file (start + 4) 8
  let files := little file (start + 32) 8
  let offset := little file (start + 48) 8
  if file.size < start + 56 ∨ little file (start + 20) 4 ≠ disk ∨
      length + 12 ≠ locator - start ∨ start < min (files * 46 + offset) 0xFFFFFFFFFFFFFFFF then none
  else
    let here := little file (start + 24) 8
    some
      { count := files
        offset := offset
        shift := start - claimed
        whole := here ≤ files && little file (start + 14) 2 ≤ little file (start + 12) 2 &&
          little file (start + 16) 4 == disk }

/-- The end record for large archives between where it is claimed to be and its locator. -/
def findLarge? (file : ByteArray) (claimed disk locator : Nat) : Nat → Nat → Option Ending
  | 0, _ => none
  | tries + 1, start =>
    match Bytes.findSignature? file 0x06064B50 start (locator - start) with
    | none => none
    | some found =>
      match largeEnding? file claimed disk locator found with
      | some ending => some ending
      | none => findLarge? file claimed disk locator tries (found + 1)

/-- What the end record at a place says, if it can be one. The bytes of a signature may stand in a
file by chance, so everything that can be checked is. -/
def endingAt? (file : ByteArray) (place : Nat) : Option Ending :=
  if file.size < place + 22 + little file (place + 20) 2 then none
  else
    let total := little file (place + 10) 2
    let offset := little file (place + 16) 4
    let mayBeLarge := total == 0xFFFF || offset == widened
    if mayBeLarge && 20 ≤ place && Bytes.hasSignature file 0x07064B50 (place - 20) then
      -- A record for larger numbers is told of right in front of this one.
      let locator := place - 20
      let disk := little file (locator + 4) 4
      let claimed := little file (locator + 8) 8
      if locator ≤ claimed ∨ 1 < little file (locator + 16) 4 then none
      else findLarge? file claimed disk locator (locator - claimed) claimed
    else
      -- What stands in front of an archive moves all its places, and the first record shows by how
      -- much.
      let ending (shift : Nat) : Ending :=
        { count := little file (place + 8) 2
          offset := offset
          shift := shift
          whole := little file (place + 4) 2 == little file (place + 6) 2 }
      if total = 0 then some (ending (place - offset))
      else if place ≤ offset then none
      else
        (Bytes.findSignature? file 0x02014B50 offset (place - offset)).map fun first =>
          ending (first - offset)

/-- The records that an end record leads to. All of them have to be there, and on this disk. -/
def Ending.records? (file : ByteArray) (ending : Ending) : Option (List Record) :=
  if ending.whole then
    Record.listOfBytes? file ending.shift (min ending.count (file.size + 1))
      (ending.offset + ending.shift)
  else none

/-- The records of the last end record before `limit` that leads to any. -/
def recordsBefore? (file : ByteArray) : Nat → Nat → Option (List Record)
  | 0, _ => none
  | tries + 1, limit =>
    match Bytes.findLastSignature? file 0x06054B50 limit limit with
    | none => none
    | some place =>
      match (endingAt? file place).bind (·.records? file) with
      | some records => some records
      | none => recordsBefore? file tries place

/-- The records with each name once: a name stands where it comes first, with the
record that comes last. -/
def distinct (records : List Record) : List Record :=
  records.foldl
    (fun kept record =>
      if kept.any (·.name == record.name) then
        kept.map fun other => if other.name == record.name then record else other
      else kept ++ [record])
    []

/-- The entries of a zip file, if it is one. They are tried from the last end record backwards,
because a comment may hold what looks like one. -/
def entries? (file : ByteArray) : Option (List Record) :=
  (recordsBefore? file (file.size + 1) file.size).map distinct

end LayeredUnits.Zip
