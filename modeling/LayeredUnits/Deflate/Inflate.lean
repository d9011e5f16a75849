import LayeredUnits.Bytes.Byte
import LayeredUnits.Deflate.Code
import LayeredUnits.Source.Blob

/-!
# Inflating

Unpacks deflated data (RFC 1951). Bits are taken lowest first. Every step
takes at least one bit, so the number of bits bounds the number of steps.
Unpacked data is delivered a window at a time: what a window holds of corrupt
data is lost with it, while data that ends early is delivered as far as it
goes.
-/

namespace LayeredUnits.Deflate

/-- Why inflating stops before the end. The two come out at different places: what a window holds of
corrupt data is lost. -/
inductive Stop where
  /-- The packed data ends too early. -/
  | truncated
  /-- The packed data breaks a rule. -/
  | corrupt

/-- How far inflating has come: the number of bits taken, and what was unpacked. -/
structure Progress where
  taken : Nat := 0
  out : ByteArray := .empty

/-- A step of inflating, which may stop; what was unpacked before is kept. -/
abbrev Result (α : Type) := Except (Stop × ByteArray) α

/-- The bit at a place, counted from the lowest bit of the first byte. -/
def bitAt? (packed : ByteArray) (place : Nat) : Option Bool :=
  if h : place / 8 < packed.size then some ((packed[place / 8]).toNat.testBit (place % 8))
  else none

/-- The number that the next bits make up, the lowest bit first. -/
def bitsAt? (packed : ByteArray) (place : Nat) : Nat → Option Nat
  | 0 => some 0
  | width + 1 => do
    let bit ← bitAt? packed place
    let rest ← bitsAt? packed (place + 1) width
    some (bit.toNat + 2 * rest)

/-- Takes the number that the next bits make up. It fails as a whole if they are not all there. -/
def takeBits (packed : ByteArray) (width : Nat) (now : Progress) : Result (Nat × Progress) :=
  match bitsAt? packed now.taken width with
  | some number => .ok (number, { now with taken := now.taken + width })
  | none => .error (.truncated, now.out)

/-- The symbol of the code word at a place, with the place after it. -/
def symbolAt (packed : ByteArray) : Code → Nat → Except Stop (Nat × Nat)
  | .symbol value, place => .ok (value, place)
  | .unused, _ => .error .corrupt
  | .fork zero one, place =>
    match bitAt? packed place with
    | none => .error .truncated
    | some true => symbolAt packed one (place + 1)
    | some false => symbolAt packed zero (place + 1)

/-- Takes the symbol of the next code word, of however many bits that is. -/
def takeSymbol (packed : ByteArray) (code : Code) (now : Progress) : Result (Nat × Progress) :=
  match symbolAt packed code now.taken with
  | .ok (value, place) => .ok (value, { now with taken := place })
  | .error stop => .error (stop, now.out)

/-- The smallest match length of each length symbol, from symbol 257 on, and the number
of bits that are added to it. -/
def lengthTable : List (Nat × Nat) := [
  (3, 0), (4, 0), (5, 0), (6, 0), (7, 0), (8, 0), (9, 0), (10, 0), (11, 1), (13, 1), (15, 1),
  (17, 1), (19, 2), (23, 2), (27, 2), (31, 2), (35, 3), (43, 3), (51, 3), (59, 3), (67, 4),
  (83, 4), (99, 4), (115, 4), (131, 5), (163, 5), (195, 5), (227, 5), (258, 0)]

/-- The smallest distance of each distance symbol, and the number of bits that are added. -/
def distanceTable : List (Nat × Nat) := [
  (1, 0), (2, 0), (3, 0), (4, 0), (5, 1), (7, 1), (9, 2), (13, 2), (17, 3), (25, 3), (33, 4),
  (49, 4), (65, 5), (97, 5), (129, 6), (193, 6), (257, 7), (385, 7), (513, 8), (769, 8),
  (1025, 9), (1537, 9), (2049, 10), (3073, 10), (4097, 11), (6145, 11), (8193, 12), (12289, 12),
  (16385, 13), (24577, 13)]

/-- The order in which the lengths of the code for code lengths are given. -/
def lengthOrder : List Nat := [16, 17, 18, 0, 8, 7, 9, 6, 10, 5, 11, 4, 12, 3, 13, 2, 14, 1, 15]

/-- Repeats `length` bytes that lie `distance` back. What lies before the beginning
counts as zero. -/
def copyBack (out : ByteArray) (distance : Nat) : Nat → ByteArray
  | 0 => out
  | length + 1 =>
    let byte := if distance ≤ out.size then Bytes.byteAt out (out.size - distance) else 0
    copyBack (out.push byte) distance length

/-- Takes a number that a table gives for a symbol: the smallest, and bits to add. -/
def takeTabled (packed : ByteArray) (table : List (Nat × Nat)) (symbol : Nat) (now : Progress) :
    Result (Nat × Progress) :=
  match table[symbol]? with
  | none => .error (.corrupt, now.out)
  | some (least, width) => do
    let (more, now) ← takeBits packed width now
    .ok (least + more, now)

/-- Unpacks literals and matches up to the end of the block. Each symbol takes a bit at least, so
the steps are enough for all of them. -/
def inflateSymbols (packed : ByteArray) (literals distances : Code) :
    Nat → Progress → Result Progress
  | 0, now => .error (.truncated, now.out)
  | steps + 1, now => do
    let (symbol, now) ← takeSymbol packed literals now
    if symbol < 256 then
      inflateSymbols packed literals distances steps
        { now with out := now.out.push (UInt8.ofNat symbol) }
    -- This symbol ends the block.
    else if symbol = 256 then .ok now
    else
      let (length, now) ← takeTabled packed lengthTable (symbol - 257) now
      let (symbol, now) ← takeSymbol packed distances now
      let (distance, now) ← takeTabled packed distanceTable symbol now
      inflateSymbols packed literals distances steps
        { now with out := copyBack now.out distance length }

/-- The lengths of the fixed code for literals and lengths, which no block has to describe. -/
def fixedLengths : List Nat :=
  List.replicate 144 8 ++ List.replicate 112 9 ++ List.replicate 24 7 ++ List.replicate 8 8

/-- The fixed code for literals and lengths. -/
def fixedLiterals : Code := .ofLengths fixedLengths

/-- The fixed code for distances. -/
def fixedDistances : Code := .ofLengths (List.replicate 32 5)

/-- Takes `count` code lengths. `given` holds those taken before, the last one first. -/
def takeLengths (packed : ByteArray) (code : Code) (count : Nat) :
    Nat → List Nat → Progress → Result (List Nat × Progress)
  | 0, given, now =>
    if given.length = count then .ok (given.reverse, now) else .error (.corrupt, now.out)
  | steps + 1, given, now =>
    if count ≤ given.length then
      if given.length = count then .ok (given.reverse, now) else .error (.corrupt, now.out)
    else do
      let (symbol, now) ← takeSymbol packed code now
      if symbol < 16 then takeLengths packed code count steps (symbol :: given) now
      -- The last three symbols repeat: the length before, or zero a few times or many times.
      else if symbol = 16 then
        match given with
        | [] => .error (.corrupt, now.out)
        | last :: _ =>
          let (more, now) ← takeBits packed 2 now
          takeLengths packed code count steps (List.replicate (3 + more) last ++ given) now
      else if symbol = 17 then
        let (more, now) ← takeBits packed 3 now
        takeLengths packed code count steps (List.replicate (3 + more) 0 ++ given) now
      else
        let (more, now) ← takeBits packed 7 now
        takeLengths packed code count steps (List.replicate (11 + more) 0 ++ given) now

/-- Takes the lengths, three bits each, of the code for code lengths, in the order in
which they are given. -/
def takeOrdered (packed : ByteArray) :
    List Nat → Progress → Result (List (Nat × Nat) × Progress)
  | [], now => .ok ([], now)
  | symbol :: symbols, now => do
    let (length, now) ← takeBits packed 3 now
    let (rest, now) ← takeOrdered packed symbols now
    .ok ((symbol, length) :: rest, now)

/-- A code may leave words unused only if it has at most one word: a block need not have
any match. -/
def mayLead (lengths : List Nat) : Bool := Code.isComplete lengths || Code.used lengths ≤ 1

/-- Takes the two codes that a block describes itself. Their lengths are packed in turn, by a code
whose lengths come first. -/
def takeCodes (packed : ByteArray) (now : Progress) : Result (Code × Code × Progress) := do
  let (literals, now) ← takeBits packed 5 now
  let (distances, now) ← takeBits packed 5 now
  let (orders, now) ← takeBits packed 4 now
  let literals := literals + 257
  let distances := distances + 1
  if 286 < literals ∨ 30 < distances then .error (.corrupt, now.out)
  else
    let (given, now) ← takeOrdered packed (lengthOrder.take (orders + 4)) now
    let lengths := (List.range 19).map fun symbol => (given.lookup symbol).getD 0
    if !Code.isComplete lengths then .error (.corrupt, now.out)
    else
      let count := literals + distances
      let (lengths, now) ← takeLengths packed (.ofLengths lengths) count count [] now
      let forLiterals := lengths.take literals
      let forDistances := lengths.drop literals
      if mayLead forLiterals && mayLead forDistances then
        .ok (.ofLengths forLiterals, .ofLengths forDistances, now)
      else .error (.corrupt, now.out)

/-- Copies a block that is not packed. It starts at a whole byte and gives its length
twice, the second time with every bit turned over. -/
def inflateStored (packed : ByteArray) (now : Progress) : Result Progress := do
  let (length, now) ← takeBits packed 16 { now with taken := (now.taken + 7) / 8 * 8 }
  let (inverse, now) ← takeBits packed 16 now
  if length + inverse ≠ 0xFFFF then .error (.corrupt, now.out)
  else
    let start := now.taken / 8
    let out := now.out ++ packed.extract start (start + length)
    if start + length ≤ packed.size then .ok ⟨now.taken + 8 * length, out⟩
    else .error (.truncated, out)

/-- Unpacks blocks up to the last one, which says of itself that it is the last. -/
def inflateBlocks (packed : ByteArray) (steps : Nat) : Nat → Progress → Result Progress
  | 0, now => .error (.truncated, now.out)
  | blocks + 1, now => do
    let (final, now) ← takeBits packed 1 now
    let (kind, now) ← takeBits packed 2 now
    let now ←
      match kind with
      | 0 => inflateStored packed now
      | 1 => inflateSymbols packed fixedLiterals fixedDistances steps now
      | 2 => do
        let (literals, distances, now) ← takeCodes packed now
        inflateSymbols packed literals distances steps now
      | _ => .error (.corrupt, now.out)
    if final = 1 then .ok now else inflateBlocks packed steps blocks now

/-- How much is unpacked at a time. What a reader gets comes in whole windows, but for the end. -/
def window : Nat := 32768

/-- The unpacked data, as a stream that may break off. Bytes after the last block are not
looked at. -/
def inflate (packed : ByteArray) : Stream :=
  let bits := 8 * packed.size + 1
  match inflateBlocks packed bits bits {} with
  | .ok done => ⟨done.out, none⟩
  | .error (.truncated, out) => ⟨out, some .unexpectedEof⟩
  -- What has been unpacked of the window in which the fault is never gets to a reader.
  | .error (.corrupt, out) => ⟨out.extract 0 (out.size / window * window), some .invalidInput⟩

end LayeredUnits.Deflate
