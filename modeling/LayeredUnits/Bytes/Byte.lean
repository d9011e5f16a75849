/-!
# Single bytes
-/

namespace LayeredUnits.Bytes

/-- The byte at a place; beyond the end there are zeros, so a place need not be checked before it is
read. -/
def byteAt (bytes : ByteArray) (place : Nat) : UInt8 :=
  if h : place < bytes.size then bytes[place] else 0

end LayeredUnits.Bytes
