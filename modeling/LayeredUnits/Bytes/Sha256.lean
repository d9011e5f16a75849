import LayeredUnits.Bytes.Byte
import LayeredUnits.Bytes.Hex

/-!
# SHA-256

The digest that identifies the bytes of a unit (FIPS 180-4). A message is
padded to whole blocks of sixty-four bytes, every block is spread into
sixty-four words, and the words are mixed into a state of eight.
-/

namespace LayeredUnits.Bytes.Sha256

/-- The first thirty-two bits of the fractional parts of the cube roots of the
first sixty-four primes. -/
def roundConstants : List UInt32 := [
  0x428a2f98, 0x71374491, 0xb5c0fbcf, 0xe9b5dba5, 0x3956c25b, 0x59f111f1, 0x923f82a4, 0xab1c5ed5,
  0xd807aa98, 0x12835b01, 0x243185be, 0x550c7dc3, 0x72be5d74, 0x80deb1fe, 0x9bdc06a7, 0xc19bf174,
  0xe49b69c1, 0xefbe4786, 0x0fc19dc6, 0x240ca1cc, 0x2de92c6f, 0x4a7484aa, 0x5cb0a9dc, 0x76f988da,
  0x983e5152, 0xa831c66d, 0xb00327c8, 0xbf597fc7, 0xc6e00bf3, 0xd5a79147, 0x06ca6351, 0x14292967,
  0x27b70a85, 0x2e1b2138, 0x4d2c6dfc, 0x53380d13, 0x650a7354, 0x766a0abb, 0x81c2c92e, 0x92722c85,
  0xa2bfe8a1, 0xa81a664b, 0xc24b8b70, 0xc76c51a3, 0xd192e819, 0xd6990624, 0xf40e3585, 0x106aa070,
  0x19a4c116, 0x1e376c08, 0x2748774c, 0x34b0bcb5, 0x391c0cb3, 0x4ed8aa4a, 0x5b9cca4f, 0x682e6ff3,
  0x748f82ee, 0x78a5636f, 0x84c87814, 0x8cc70208, 0x90befffa, 0xa4506ceb, 0xbef9a3f7, 0xc67178f2]

/-- The eight words that the digest is made of. -/
structure State where
  a : UInt32
  b : UInt32
  c : UInt32
  d : UInt32
  e : UInt32
  f : UInt32
  g : UInt32
  h : UInt32

/-- The first thirty-two bits of the fractional parts of the square roots of the
first eight primes. -/
def initial : State :=
  ⟨0x6a09e667, 0xbb67ae85, 0x3c6ef372, 0xa54ff53a,
    0x510e527f, 0x9b05688c, 0x1f83d9ab, 0x5be0cd19⟩

/-- A word turned right by `n` bits. -/
def rotate (x n : UInt32) : UInt32 := (x >>> n) ||| (x <<< (32 - n))

/-- The four bytes from `at` on as a word, the highest byte first. -/
def wordAt (bytes : ByteArray) (start : Nat) : UInt32 :=
  (List.range 4).foldl (fun word i => (word <<< 8) ||| (byteAt bytes (start + i)).toUInt32) 0

/-- One more word of the schedule, from those sixteen, fifteen, seven and two
places back. -/
def extend (words : Array UInt32) : Array UInt32 :=
  let back (n : Nat) : UInt32 := words.getD (words.size - n) 0
  let low := rotate (back 15) 7 ^^^ rotate (back 15) 18 ^^^ (back 15 >>> 3)
  let high := rotate (back 2) 17 ^^^ rotate (back 2) 19 ^^^ (back 2 >>> 10)
  words.push (back 16 + low + back 7 + high)

/-- The sixty-four words of the block that starts at `start`: its own sixteen, and those that are
made from them. -/
def schedule (bytes : ByteArray) (start : Nat) : Array UInt32 :=
  (List.range 48).foldl (fun words _ => extend words)
    ((List.range 16).map fun i => wordAt bytes (start + 4 * i)).toArray

/-- One of the sixty-four rounds that mix a word into the state. Two of the eight words are new, and
the others move on. -/
def mix (s : State) (constant word : UInt32) : State :=
  let sum1 := rotate s.e 6 ^^^ rotate s.e 11 ^^^ rotate s.e 25
  let choice := (s.e &&& s.f) ^^^ (~~~ s.e &&& s.g)
  let first := s.h + sum1 + choice + constant + word
  let sum0 := rotate s.a 2 ^^^ rotate s.a 13 ^^^ rotate s.a 22
  let majority := (s.a &&& s.b) ^^^ (s.a &&& s.c) ^^^ (s.b &&& s.c)
  ⟨first + (sum0 + majority), s.a, s.b, s.c, s.d + first, s.e, s.f, s.g⟩

/-- The state after a block: what the rounds make of it is added to what it was, so that no round
can be undone. -/
def compress (s : State) (bytes : ByteArray) (start : Nat) : State :=
  let mixed := (roundConstants.zip (schedule bytes start).toList).foldl
    (fun t pair => mix t pair.1 pair.2) s
  ⟨s.a + mixed.a, s.b + mixed.b, s.c + mixed.c, s.d + mixed.d,
    s.e + mixed.e, s.f + mixed.f, s.g + mixed.g, s.h + mixed.h⟩

/-- The bytes of a number, the highest first. -/
def bigEndian (width n : Nat) : List UInt8 :=
  (List.range width).map fun i => UInt8.ofNat (n >>> (8 * (width - 1 - i)))

/-- The message with a one bit, as many zeros as fill up the last block, and its
length in bits. -/
def padded (message : ByteArray) : ByteArray :=
  let zeros := (119 - message.size % 64) % 64
  message ++ ⟨(0x80 :: List.replicate zeros 0 ++ bigEndian 8 (8 * message.size)).toArray⟩

/-- The state after the whole message. -/
def run (message : ByteArray) : State :=
  let blocks := padded message
  (List.range (blocks.size / 64)).foldl (fun s i => compress s blocks (64 * i)) initial

/-- The digest, thirty-two bytes. -/
def digest (message : ByteArray) : ByteArray :=
  let s := run message
  ⟨([s.a, s.b, s.c, s.d, s.e, s.f, s.g, s.h].flatMap fun w => bigEndian 4 w.toNat).toArray⟩

/-- The digest in hexadecimal. -/
def hexDigest (message : ByteArray) : String := hex (digest message)

end LayeredUnits.Bytes.Sha256
