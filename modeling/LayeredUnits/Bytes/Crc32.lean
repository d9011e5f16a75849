/-!
# CRC-32

The checksum of archive entries: division of the message by the polynomial
`0xEDB88320` over GF(2), with the bits of each byte taken from the lowest up.
-/

namespace LayeredUnits.Bytes.Crc32

/-- One bit of the division. The bits of a number are taken from the lowest up, so a shift to the
right is what a multiplication would be, and the constant is the generator the other way round. -/
def stepBit (crc : UInt32) : UInt32 :=
  if crc &&& 1 = 1 then (crc >>> 1) ^^^ 0xEDB88320 else crc >>> 1

/-- Eight bits of the division, after a byte of the message has been added. -/
def stepByte (crc : UInt32) (byte : UInt8) : UInt32 :=
  (List.range 8).foldl (fun c _ => stepBit c) (crc ^^^ byte.toUInt32)

/-- The checksum of a message. The division starts from a number of ones only, so that zeros at the
beginning of a message count, and what is left is turned into its complement. -/
def checksum (message : ByteArray) : UInt32 :=
  message.foldl stepByte 0xFFFFFFFF ^^^ 0xFFFFFFFF

end LayeredUnits.Bytes.Crc32
