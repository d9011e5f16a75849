import LayeredUnits.Fault

/-!
# Blobs

A blob is data with a declared size. The data comes as a stream that may be
shorter or longer than declared, or break off with a failure. A blob is read
whole or not at all: the declared size is checked first, and then exactly that
many bytes have to come, and no more. To see that no more come, a reader asks
for one byte beyond the declared size, and that is also what makes a stream
tell of a failure at its very end.

The buffer for the bytes is asked for as soon as the size is accepted, before
any data is, and memory may refuse it: a size that a few bytes of an archive
declare can be larger than any memory. A refusal ends the whole program, so it
is no fault that a caller could see. A `Blob.Reading` therefore says which buffers a
reader asks for, beside the answer that it gives if it gets them, and
`Blob.Reading.ending` says what comes of it in a given memory. Everything that is
built on readers, loaders among it, goes on with the answer: it describes the
runs in which memory grants what is asked for. Buffers for other things than
the bytes of units and resources are not looked at.
-/

namespace LayeredUnits

/-- Bytes, and the failure that comes after them if there is one. What comes before a failure has
been read by then, so it belongs to the stream. -/
structure Stream where
  data : ByteArray
  failure : Option IoKind := none

/-- A stream with the size that its source declares. The two need not agree, and that they do is
what a reader has to make sure of. -/
structure Blob where
  declared : Nat
  stream : Stream

/-- The largest size that memory can be asked for, whatever there is of it. A larger one is refused
before anything is read. -/
def maxSize : Nat := 0x7FFFFFFFFFFFFFFF

/-- All bytes of a stream, however many come. Nothing bounds them: this is how the settings file is
read, and not how units and resources are. -/
def Stream.all (stream : Stream) : Except IoKind ByteArray :=
  match stream.failure with
  | some kind => .error kind
  | none => .ok stream.data

/-- Exactly `size` bytes. At most one byte more is asked for. -/
def Stream.exactly (stream : Stream) (size : Nat) : Except ReadFault ByteArray :=
  if size < stream.data.size then .error (.length size (size + 1))
  else
    match stream.failure with
    | some kind => .error (.io kind)
    | none =>
      if stream.data.size = size then .ok stream.data
      else .error (.length size stream.data.size)

/-- What memory has room for. Apart from the case of no bytes nothing is assumed of it, not even
that there is room for a small buffer where there is for a large one. -/
structure Memory where
  /-- Whether a buffer for so many bytes can be had. -/
  grants : Nat → Bool
  /-- For no bytes at all no buffer is needed. -/
  nothing : grants 0 = true

namespace Blob

/-- What a reader sets out to do, as a value: what it asks of memory, and what it answers if it is
not refused. -/
structure Reading where
  /-- The buffers it asks for, by the number of bytes they have to hold, in the order in which it
  asks. It asks for the second one only when the first one is full. -/
  buffers : List Nat
  /-- The answer it gives when it has got them. -/
  answer : Except Fault ByteArray

namespace Reading

/-- What comes of a reading. A program that is refused a buffer is stopped there and then, and
neither bytes nor a fault come of the reading. -/
def ending (reading : Reading) (memory : Memory) : Option (Except Fault ByteArray) :=
  if reading.buffers.all memory.grants then some reading.answer else none

/-- A reading of something that has to be opened first. Nothing is asked of memory if that
fails. -/
def ofOpened (opened : Except Fault Blob) (read : Blob → Reading) : Reading :=
  match opened with
  | .ok blob => read blob
  | .error fault => ⟨[], .error fault⟩

theorem answer_ofOpened (opened : Except Fault Blob) (read : Blob → Reading) :
    (ofOpened opened read).answer = opened >>= fun blob => (read blob).answer := by
  cases opened <;> rfl

end Reading

/-- Reads bytes of the declared size, which has to lie between `least` and `most`. If more come than
declared, the byte that is too many needs a buffer that can hold it. -/
def reading (blob : Blob) (place : String) (least most : Nat) : Reading :=
  if blob.declared < least ∨ most < blob.declared then
    ⟨[], .error (.size place blob.declared most)⟩
  else
    { buffers :=
        if blob.declared < blob.stream.data.size then [blob.declared, blob.declared + 1]
        else [blob.declared]
      answer :=
        match blob.stream.exactly blob.declared with
        | .ok bytes => .ok bytes
        | .error cause => .error (.io ("reading " ++ place) cause) }

/-- Bytes of the declared size, if memory has room for them. This is the answer of `reading`, and
everything that goes on with the bytes goes on with it. -/
def within (blob : Blob) (place : String) (least most : Nat) : Except Fault ByteArray :=
  (blob.reading place least most).answer

/-- Reads a unit: it is not empty, and has at most as many bytes as `limit` and memory allow. -/
def unitReading (blob : Blob) (place : String) (limit : Nat) : Reading :=
  blob.reading place 1 (min limit maxSize)

/-- Reads a resource, which may be empty and is bounded by memory only. -/
def resourceReading (blob : Blob) (place : String) : Reading :=
  blob.reading place 0 maxSize

end Blob

end LayeredUnits
