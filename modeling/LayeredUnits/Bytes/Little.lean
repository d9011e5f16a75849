import LayeredUnits.Bytes.Byte

/-!
# Numbers in bytes

Numbers that are written lowest byte first, and pieces of byte strings.
-/

namespace LayeredUnits.Bytes

/-- The number that `width` bytes from `start` on make up, the lowest byte first.
Bytes beyond the end count as zero. -/
def little (bytes : ByteArray) (start : Nat) : Nat → Nat
  | 0 => 0
  | width + 1 => (byteAt bytes start).toNat + 256 * little bytes (start + 1) width

/-- At most `length` bytes from `start` on, as many as there are. -/
def slice (bytes : ByteArray) (start length : Nat) : ByteArray :=
  bytes.extract start (start + length)

/-- Whether the four bytes at `start` are a signature. Bytes beyond the end are none. -/
def hasSignature (bytes : ByteArray) (signature start : Nat) : Bool :=
  start + 4 ≤ bytes.size && little bytes start 4 == signature

/-- The first place from `start` on at which a signature stands that ends within the
next `length` bytes. -/
def findSignature? (bytes : ByteArray) (signature start length : Nat) : Option Nat :=
  match length with
  | 0 => none
  | length + 1 =>
    if length < 3 then none
    else if hasSignature bytes signature start then some start
    else findSignature? bytes signature (start + 1) length

/-- The last place below `bound` at which a signature stands that ends within the first
`limit` bytes. -/
def findLastSignature? (bytes : ByteArray) (signature limit : Nat) : Nat → Option Nat
  | 0 => none
  | bound + 1 =>
    if bound + 4 ≤ limit && hasSignature bytes signature bound then some bound
    else findLastSignature? bytes signature limit bound

end LayeredUnits.Bytes
